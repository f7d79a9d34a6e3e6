import PathTemplate.Proofs.Route.Rewriting

namespace PathTemplate

/-!
# Rewriting in succession

A URL that was rewritten may be rewritten again.  Every rewriting reads the text that the one before
it has written, and writes its overrides over what it reads.  Where all parameters are required and
all parts are whole segments, it reads just what was written: no value is lost between two of them,
and neither is the order of the query.  So two rewritings are one, with the later overrides merged
into the earlier ones, and by induction a run of any length is one.

This is not claimed for optional parameters: one that is left out in front of other segments may be
given the next of them, so a later rewriting need not find what an earlier one left.
-/

namespace Params

/-- Overrides hide the same values, whatever they are written over. -/
theorem nonempty?_elim_merge {values others : Params} {name : String}
    (same : values.nonempty? name = others.nonempty? name) (overrides : Option Params) :
    nonempty? (overrides.elim values values.merge) name =
      nonempty? (overrides.elim others others.merge) name := by
  cases overrides with
  | none => exact same
  | some given =>
      change nonempty? (values.merge given) name = nonempty? (others.merge given) name
      simp only [nonempty?, get?, OrderedMap.find?_merge]
      cases given.find? name with
      | none => exact same
      | some value => rfl

end Params

/-- What one rewriting overrides; it may leave the parameters or the query alone. -/
structure Overrides where
  params : Option Params
  query : Option Query

namespace Overrides

/-- Overrides with later ones merged into them. -/
def followedBy (first second : Overrides) : Overrides :=
  ⟨first.params.merge OrderedMap.merge second.params,
    first.query.merge OrderedMap.merge second.query⟩

end Overrides

namespace Route

/-- The URL that comes out of rewriting a location and then, with each of the further overrides, the
URL that came out before.  Every single rewriting succeeds. -/
inductive Rewrites (r : Route) : Location → List Overrides → String → Prop where
  | once {l : Location} {overrides : Overrides} {url : String}
      (replaced : r.replace l overrides.params overrides.query = .ok (some url)) :
      Rewrites r l [overrides] url
  | again {l : Location} {overrides : Overrides} {further : List Overrides} {next url : String}
      (replaced : r.replace l overrides.params overrides.query = .ok (some next))
      (later : Rewrites r (Location.parse next) further url) :
      Rewrites r l (overrides :: further) url

variable {r : Route}

/-- Rewriting succeeds on what matches only. -/
theorem exists_found_of_replace {l : Location} {values : Option Params} {query : Option Query}
    {url : String} (replaced : r.replace l values query = .ok (some url)) :
    ∃ m, r.matchLocation l .whole = .found m ∧
      r.format (m.overriddenParams values) (some (m.overriddenQuery query)) = .ok url := by
  cases matched : r.matchLocation l .whole with
  | noMatch =>
      rw [replace_of_noMatch matched] at replaced
      cases replaced
  | found m => exact ⟨m, rfl, (replace_eq_ok matched).mp replaced⟩

private theorem omitsOnlyAtEnd_of_required (required : ∀ key ∈ r.keys, key.optional = false)
    (values : Params) : values.OmitsOnlyAtEnd r.template.parts := by
  apply Params.omitsOnlyAtEnd_of_forall_not
  intro part listed omits
  cases part with
  | literal text => exact omits
  | param key separator =>
      have declared : key ∈ r.keys := List.mem_filterMap.mpr ⟨_, listed, rfl⟩
      have optional : key.optional = true := omits.1
      rw [required key declared] at optional
      cases optional

/-- What a URL shows that was formatted from values and a query. -/
def shown (r : Route) (values : Params) (query : Query) : Match :=
  ⟨OrderedMap.ofList (r.keys.map (fun key => (key.name, values.nonempty? key.name))),
    (some query).filter (fun q => !q.isEmpty)⟩

theorem overriddenQuery_shown (values : Params) (query : Query) (overrides : Option Query) :
    (r.shown values query).overriddenQuery overrides = overrides.elim query query.merge := by
  simp only [Match.overriddenQuery, shown, getD_filter_isEmpty]

variable {text : String} {caseSensitive : Bool}

theorem nonempty?_overriddenParams_shown (compiled : compile text caseSensitive = .ok r)
    (values : Params) (query : Query) (overrides : Option Params) {key : Key}
    (declared : key ∈ r.keys) :
    ((r.shown values query).overriddenParams overrides).nonempty? key.name =
      Params.nonempty? (overrides.elim values values.merge) key.name := by
  have found : (r.shown values query).params.find? key.name = some (values.nonempty? key.name) :=
    OrderedMap.find?_ofList_map r.keys Key.name _ (nodup_names compiled) declared
  exact Params.nonempty?_elim_merge (Params.nonempty?_of_find? found) overrides

/-- Two rewritings are one. -/
theorem replace_followedBy (compiled : compile text caseSensitive = .ok r)
    (segmented : r.template.IsSegmented) (required : ∀ key ∈ r.keys, key.optional = false)
    {l : Location} {first second : Overrides} {next url : String}
    (replaced : r.replace l first.params first.query = .ok (some next))
    (again : r.replace (Location.parse next) second.params second.query = .ok (some url)) :
    r.replace l (first.followedBy second).params (first.followedBy second).query =
      .ok (some url) := by
  rcases exists_found_of_replace replaced with ⟨m, matched, formatted⟩
  rcases exists_found_of_replace again with ⟨found, matchedNext, formattedNext⟩
  have atEnd := omitsOnlyAtEnd_of_required required (m.overriddenParams first.params)
  have readBack : r.matchLocation (Location.parse next) .whole =
      .found (r.shown (m.overriddenParams first.params) (m.overriddenQuery first.query)) :=
    matchUrl_format segmented atEnd formatted
  rw [readBack] at matchedNext
  cases matchedNext
  have sameParams : m.overriddenParams (first.followedBy second).params =
      second.params.elim (m.overriddenParams first.params)
        (m.overriddenParams first.params).merge := OrderedMap.elim_merge _ _ _
  have sameQuery : m.overriddenQuery (first.followedBy second).query =
      second.query.elim (m.overriddenQuery first.query)
        (m.overriddenQuery first.query).merge := OrderedMap.elim_merge _ _ _
  rw [replace_eq_ok matched, ← formattedNext, sameParams, sameQuery, overriddenQuery_shown]
  apply format_congr
  intro key declared
  exact (nonempty?_overriddenParams_shown compiled _ _ second.params declared).symm

/-- A run of rewritings is a single one, with all overrides merged in their order. -/
theorem replace_of_rewrites (compiled : compile text caseSensitive = .ok r)
    (segmented : r.template.IsSegmented) (required : ∀ key ∈ r.keys, key.optional = false)
    {l : Location} {first : Overrides} {further : List Overrides} {url : String}
    (rewrites : Rewrites r l (first :: further) url) :
    r.replace l (further.foldl Overrides.followedBy first).params
      (further.foldl Overrides.followedBy first).query = .ok (some url) := by
  induction further generalizing first with
  | nil =>
      cases rewrites with
      | once replaced => exact replaced
      | again _ later => cases later
  | cons second further inductionHypothesis =>
      -- The first two rewritings are made one, so the run gets shorter from its beginning.
      have shorter : Rewrites r l (first.followedBy second :: further) url := by
        cases rewrites with
        | again replaced later =>
            cases later with
            | once replacedAgain =>
                exact .once (replace_followedBy compiled segmented required replaced replacedAgain)
            | again replacedAgain rest =>
                have merged := replace_followedBy compiled segmented required replaced replacedAgain
                exact .again merged rest
      exact inductionHypothesis shorter

/-- Values are overridden twice, dropped names are undeclared, and a query name keeps its place. -/
theorem replace_of_rewrites_posts :
    let r : Route := ⟨"/users/:id/posts/:post", ⟨[.literal "/users",
      .param ⟨"id", false⟩ (some '/'), .literal "/posts",
      .param ⟨"post", false⟩ (some '/')]⟩, false⟩
    let l := Location.parse "https://example.com/USERS/1/Posts/2/?page=1&lang=de#top"
    let first : Overrides := ⟨some (OrderedMap.ofList [("id", some "a/b"), ("ghost", none)]),
      some (OrderedMap.ofList [("q", "é &"), ("page", "2")])⟩
    let second : Overrides := ⟨none, some (OrderedMap.ofList [("z", "1"), ("q", "")])⟩
    let third : Overrides :=
      ⟨some (OrderedMap.ofList [("post", some "50%"), ("id", some "c")]), none⟩
    let url := "/users/c/posts/50%25?page=2&lang=de&q=&z=1"
    compile "/users/:id/posts/:post" false = .ok r ∧ r.template.IsSegmented ∧
      (∀ key ∈ r.keys, key.optional = false) ∧ Rewrites r l [first, second, third] url ∧
      r.replace l
        (some (OrderedMap.ofList [("id", some "c"), ("ghost", none), ("post", some "50%")]))
        (some (OrderedMap.ofList [("q", ""), ("page", "2"), ("z", "1")])) = .ok (some url) := by
  intro r l first second third url
  have compiled : compile "/users/:id/posts/:post" false = .ok r := by decide +kernel
  have segmented : r.template.IsSegmented := by decide +kernel
  have required : ∀ key ∈ r.keys, key.optional = false := by decide +kernel
  have once : r.replace l first.params first.query =
      .ok (some "/users/a%2Fb/posts/2?page=2&lang=de&q=%C3%A9%20%26") := by decide +kernel
  have twice : r.replace (Location.parse "/users/a%2Fb/posts/2?page=2&lang=de&q=%C3%A9%20%26")
      second.params second.query = .ok (some "/users/a%2Fb/posts/2?page=2&lang=de&q=&z=1") := by
    decide +kernel
  have thrice : r.replace (Location.parse "/users/a%2Fb/posts/2?page=2&lang=de&q=&z=1")
      third.params third.query = .ok (some url) := by decide +kernel
  have rewrites : Rewrites r l [first, second, third] url :=
    .again once (.again twice (.once thrice))
  have merged := replace_of_rewrites compiled segmented required rewrites
  exact ⟨compiled, segmented, required, rewrites, merged⟩

end Route
end PathTemplate
