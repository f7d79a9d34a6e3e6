import Mathlib.Data.List.Find
import PathTemplate.Proofs.Route.Contents
import PathTemplate.Proofs.Route.Rewriting

namespace PathTemplate

/-!
# The outcomes of rewriting

A location that does not match is left alone, whatever the overrides hold.  One that matches supplies
every required parameter with a non-empty value, and merging changes the overridden names only.  So
the one thing that can go wrong behind a match is that an override drops a required parameter, and
the parameter that is missed is the first such one of the template: the order of the overrides does
not matter, and neither does the query.
-/

namespace Params

/-- There is an entry for a name, and it is absent or empty. -/
def Drops (values : Params) (name : String) : Prop :=
  values.find? name = some none ∨ values.find? name = some (some "")

instance (values : Params) (name : String) : Decidable (values.Drops name) :=
  inferInstanceAs (Decidable (_ ∨ _))

/-- The first required parameter, in declaration order, that overrides drop. -/
def firstDropped? (overrides : Option Params) (keys : List Key) : Option Key :=
  keys.find? (fun key => !key.optional && overrides.any (fun given => given.Drops key.name))

/-- A value that is there is lost to an override only if the override drops it. -/
theorem isNone_nonempty?_elim_merge {values : Params} {name value : String}
    (held : values.nonempty? name = some value) (overrides : Option Params) :
    (nonempty? (overrides.elim values values.merge) name).isNone =
      overrides.any (fun given => given.Drops name) := by
  cases overrides with
  | none =>
      change (values.nonempty? name).isNone = false
      rw [held]
      rfl
  | some given =>
      change (nonempty? (values.merge given) name).isNone = decide (given.Drops name)
      cases overriding : given.find? name with
      | none =>
          have kept : nonempty? (values.merge given) name = values.nonempty? name := by
            simp only [nonempty?, get?, OrderedMap.find?_merge, overriding, Option.none_or]
          rw [kept, held]
          simp [Drops, overriding]
      | some written =>
          have replaced : nonempty? (values.merge given) name = written.filter (· ≠ "") := by
            simp only [nonempty?, get?, OrderedMap.find?_merge, overriding, Option.some_or,
              Option.join_some]
          rw [replaced]
          cases written with
          | none => simp [Drops, overriding]
          | some text =>
              by_cases empty : text = ""
              · simp [Drops, overriding, empty]
              · simp [Drops, overriding, empty, Option.filter]

theorem firstDropped?_none (keys : List Key) : firstDropped? none keys = none := by
  rw [firstDropped?, List.find?_eq_none]
  intro key _
  simp only [Option.any_none, Bool.and_false, Bool.false_eq_true, not_false_eq_true]

end Params

namespace Route

variable {text : String} {caseSensitive : Bool} {r : Route} {l : Location}

/-- What is missed behind a match is what the overrides drop. -/
theorem firstMissing?_overriddenParams (compiled : compile text caseSensitive = .ok r) {m : Match}
    (matched : r.matchLocation l .whole = .found m) (overrides : Option Params) :
    (m.overriddenParams overrides).firstMissing? r.keys =
      Params.firstDropped? overrides r.keys := by
  apply List.find?_congr
  intro key declared
  cases optional : key.optional with
  | true => rfl
  | false =>
      rcases admits_of_found compiled matched key declared with ⟨value, found, admitted⟩
      cases value with
      | none =>
          have isOptional : key.optional = true := admitted
          rw [optional] at isOptional
          cases isOptional
      | some value =>
          have held := Params.nonempty?_eq_some found admitted
          exact congrArg (true && ·) (Params.isNone_nonempty?_elim_merge held overrides)

theorem replace_eq_error (compiled : compile text caseSensitive = .ok r)
    {overrides : Option Params} {query : Option Query} {e : Error} :
    r.replace l overrides query = .error e ↔
      (∃ m, r.matchLocation l .whole = .found m) ∧
        ∃ key, Params.firstDropped? overrides r.keys = some key ∧
          e = .missingParameter key.name := by
  cases matched : r.matchLocation l .whole with
  | noMatch => simp [replace_of_noMatch matched]
  | found m =>
      rw [replace_of_found matched, map_eq_error, format_eq_error,
        firstMissing?_overriddenParams compiled matched, and_iff_right ⟨m, rfl⟩]

theorem replace_eq_ok_none {overrides : Option Params} {query : Option Query} :
    r.replace l overrides query = .ok none ↔ r.matchLocation l .whole = .noMatch := by
  cases matched : r.matchLocation l .whole with
  | noMatch => simp [replace_of_noMatch matched]
  | found m => simp [replace_of_found matched, map_eq_ok]

theorem exists_replace_eq_ok_some (compiled : compile text caseSensitive = .ok r)
    {overrides : Option Params} {query : Option Query} :
    (∃ url, r.replace l overrides query = .ok (some url)) ↔
      (∃ m, r.matchLocation l .whole = .found m) ∧
        Params.firstDropped? overrides r.keys = none := by
  cases matched : r.matchLocation l .whole with
  | noMatch => simp [replace_of_noMatch matched]
  | found m =>
      rw [and_iff_right ⟨m, rfl⟩, ← firstMissing?_overriddenParams compiled matched,
        ← @exists_format_eq_ok r _ (some (m.overriddenQuery query))]
      apply exists_congr
      intro url
      exact replace_eq_ok matched

/-- Rewriting finds nothing to rewrite exactly if the location does not match.  It fails exactly if
the location matches and overrides drop a required parameter, and then for the first one that is
declared.  In every other case there is a URL.  So it never fails without overrides of parameters,
and never for the sake of the query. -/
theorem replace_outcome (compiled : compile text caseSensitive = .ok r) (l : Location)
    (overrides : Option Params) (query : Option Query) :
    (r.replace l overrides query = .ok none ↔ r.matchLocation l .whole = .noMatch) ∧
    (∀ e, r.replace l overrides query = .error e ↔
      (∃ m, r.matchLocation l .whole = .found m) ∧
        ∃ key, Params.firstDropped? overrides r.keys = some key ∧
          e = .missingParameter key.name) ∧
    ((∃ url, r.replace l overrides query = .ok (some url)) ↔
      (∃ m, r.matchLocation l .whole = .found m) ∧
        Params.firstDropped? overrides r.keys = none) ∧
    (∀ e, r.replace l none query ≠ .error e) ∧
    ∀ e other, r.replace l overrides query = .error e →
      r.replace l overrides other = .error e := by
  refine ⟨replace_eq_ok_none, fun e => replace_eq_error compiled,
    exists_replace_eq_ok_some compiled, ?_, ?_⟩
  · intro e failed
    rcases (replace_eq_error compiled).mp failed with ⟨-, key, dropped, -⟩
    rw [Params.firstDropped?_none] at dropped
    cases dropped
  · intro e other failed
    exact (replace_eq_error compiled).mpr ((replace_eq_error compiled).mp failed)

/-- The overrides drop two required parameters in the order opposite to that of the template, one of
them by an empty value, and an optional one. -/
theorem replace_outcome_posts :
    let r : Route := ⟨"/:user/posts/:post/:tab?", ⟨[.param ⟨"user", false⟩ (some '/'),
      .literal "/posts", .param ⟨"post", false⟩ (some '/'),
      .param ⟨"tab", true⟩ (some '/')]⟩, false⟩
    let l := Location.parse "https://example.com/a%2Fb/Posts/7?page=2"
    let overrides : Params := OrderedMap.ofList [("tab", none), ("post", none), ("user", some "")]
    let query : Query := OrderedMap.ofList [("page", "")]
    compile "/:user/posts/:post/:tab?" false = .ok r ∧
      r.matchLocation l .whole ≠ .noMatch ∧
      r.replace l (some overrides) (some query) = .error (.missingParameter "user") ∧
      (∃ url, r.replace l none (some query) = .ok (some url)) ∧
      r.replace (Location.parse "/a/posts") (some overrides) none = .ok none := by
  intro r l overrides query
  have compiled : compile "/:user/posts/:post/:tab?" false = .ok r := by decide +kernel
  have matched : r.matchLocation l .whole = .found
      ⟨OrderedMap.ofList [("user", some "a/b"), ("post", some "7"), ("tab", none)],
        some (OrderedMap.ofList [("page", "2")])⟩ := by decide +kernel
  have unmatched : r.matchLocation (Location.parse "/a/posts") .whole = .noMatch := by
    decide +kernel
  have dropped : Params.firstDropped? (some overrides) r.keys = some ⟨"user", false⟩ := by
    decide +kernel
  have nothing : Params.firstDropped? none r.keys = none := by decide +kernel
  have failed := (replace_outcome compiled l (some overrides) (some query)).2.1
    (.missingParameter "user")
  have succeeded := (replace_outcome compiled l none (some query)).2.2.1
  have leftAlone := (replace_outcome compiled (Location.parse "/a/posts") (some overrides) none).1
  refine ⟨compiled, ?_, failed.mpr ⟨⟨_, matched⟩, _, dropped, rfl⟩,
    succeeded.mpr ⟨⟨_, matched⟩, nothing⟩, leftAlone.mpr unmatched⟩
  rw [matched]
  exact nofun

end Route
end PathTemplate
