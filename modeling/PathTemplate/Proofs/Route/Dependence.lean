import PathTemplate.Proofs.Route.Rewriting

namespace PathTemplate

/-!
# What a formatted URL depends on

Formatting asks for the text of each declared parameter and for nothing else.  A value that is
absent, one that is empty and a name without entry are the same to it: they have no text.  So the
order of the values and those of names that are not declared have no part in the URL, nor in the
failure.  The failure is decided by the template and the texts alone: it names the first required
parameter without text, and neither the parameters behind that one nor the query can change it.

Not every declared text shows in the URL as such, since neighbouring values may run together.
-/

namespace Params

/-- The text of a parameter; there is none, which is the empty text, if its value is absent or if it
has no entry. -/
def textOf (values : Params) (name : String) : String :=
  (values.get? name).getD ""

theorem nonempty?_eq_ite (values : Params) (name : String) :
    values.nonempty? name =
      if values.textOf name = "" then none else some (values.textOf name) := by
  rw [nonempty?, textOf]
  cases values.get? name with
  | none => rfl
  | some value =>
      rw [Option.getD_some, Option.filter_some]
      by_cases empty : value = ""
      · rw [if_pos empty, if_neg (by simpa using empty)]
      · rw [if_neg empty, if_pos (decide_eq_true empty)]

theorem nonempty?_eq_none_iff {values : Params} {name : String} :
    values.nonempty? name = none ↔ values.textOf name = "" := by
  rw [nonempty?_eq_ite]
  by_cases empty : values.textOf name = ""
  · rw [if_pos empty]
    exact iff_of_true rfl empty
  · rw [if_neg empty]
    exact iff_of_false (Option.some_ne_none _) empty

/-- A key is the first one that is missed: it is required and has no text, and every required key
that is declared before it has one. -/
def MissesFirst (values : Params) (keys : List Key) (key : Key) : Prop :=
  ∃ before after, keys = before ++ key :: after ∧
    key.optional = false ∧ values.textOf key.name = "" ∧
    ∀ earlier ∈ before, earlier.optional = false → values.textOf earlier.name ≠ ""

theorem firstMissing?_eq_some_iff {values : Params} {keys : List Key} {key : Key} :
    values.firstMissing? keys = some key ↔ values.MissesFirst keys key := by
  have missed : ∀ k : Key, (!k.optional && (values.nonempty? k.name).isNone) = true ↔
      k.optional = false ∧ values.textOf k.name = "" := by
    intro k
    rw [Bool.and_eq_true, Bool.not_eq_true', Option.isNone_iff_eq_none, nonempty?_eq_none_iff]
  rw [firstMissing?, List.find?_eq_some_iff_append, missed]
  constructor
  · intro found
    rcases found with ⟨⟨required, empty⟩, before, after, split, passed⟩
    refine ⟨before, after, split, required, empty, ?_⟩
    intro earlier listed isRequired isEmpty
    have notMissed := passed earlier listed
    rw [Bool.not_eq_true', ← Bool.not_eq_true, missed] at notMissed
    exact notMissed ⟨isRequired, isEmpty⟩
  · intro first
    rcases first with ⟨before, after, split, required, empty, passed⟩
    refine ⟨⟨required, empty⟩, before, after, split, ?_⟩
    intro earlier listed
    rw [Bool.not_eq_true', ← Bool.not_eq_true, missed]
    intro isMissed
    exact passed earlier listed isMissed.1 isMissed.2

theorem firstMissing?_eq_none_iff {values : Params} {keys : List Key} :
    values.firstMissing? keys = none ↔
      ∀ key ∈ keys, key.optional = false → values.textOf key.name ≠ "" := by
  rw [firstMissing?, List.find?_eq_none]
  apply forall₂_congr
  intro key _
  rw [Bool.and_eq_true, Bool.not_eq_true', Option.isNone_iff_eq_none, nonempty?_eq_none_iff,
    not_and]

end Params

namespace Route

/-- Formatting fails exactly if a required parameter has no text, and then for the first one in the
order of declaration, whatever the query; otherwise there is a URL.  Values that give the declared
parameters the same texts are formatted alike, and an empty query is formatted like none. -/
theorem format_depends_on_texts (r : Route) (values : Params) (query : Option Query) :
    (∀ name, r.format values query = .error (.missingParameter name) ↔
      ∃ key, values.MissesFirst r.keys key ∧ key.name = name) ∧
    ((∃ url, r.format values query = .ok url) ↔
      ∀ key ∈ r.keys, key.optional = false → values.textOf key.name ≠ "") ∧
    (∀ others : Params, (∀ key ∈ r.keys, values.textOf key.name = others.textOf key.name) →
      r.format values query = r.format others query) ∧
    r.format values (some OrderedMap.empty) = r.format values none := by
  refine ⟨?_, ?_, ?_, rfl⟩
  · intro name
    rw [format_eq_error]
    apply exists_congr
    intro key
    rw [Params.firstMissing?_eq_some_iff, Error.missingParameter.injEq, eq_comm (a := name)]
  · rw [exists_format_eq_ok, Params.firstMissing?_eq_none_iff]
  · intro others same
    apply format_congr
    intro key declared
    rw [Params.nonempty?_eq_ite, Params.nonempty?_eq_ite, same key declared]

/-- One set of values is in another order, holds an undeclared name, and has an empty text where the
other has no entry; a third misses two required parameters, one by an absent value. -/
theorem format_depends_on_texts_posts :
    let r : Route := ⟨"/:user/posts/:post/:tab?", ⟨[.param ⟨"user", false⟩ (some '/'),
      .literal "/posts", .param ⟨"post", false⟩ (some '/'),
      .param ⟨"tab", true⟩ (some '/')]⟩, false⟩
    let values : Params :=
      OrderedMap.ofList [("ghost", some "boo"), ("tab", some ""), ("post", some "7"),
        ("user", some "a/b")]
    let others : Params := OrderedMap.ofList [("user", some "a/b"), ("post", some "7")]
    let lacking : Params := OrderedMap.ofList [("tab", some "info"), ("post", none)]
    let query : Option Query := some (OrderedMap.ofList [("page", "2")])
    compile "/:user/posts/:post/:tab?" false = .ok r ∧
      (∀ key ∈ r.keys, values.textOf key.name = others.textOf key.name) ∧
      r.format values query = r.format others query ∧
      lacking.MissesFirst r.keys ⟨"user", false⟩ ∧
      r.format lacking query = .error (.missingParameter "user") ∧
      ∃ url, r.format others none = .ok url := by
  intro r values others lacking query
  have compiled : compile "/:user/posts/:post/:tab?" false = .ok r := by decide +kernel
  have same : ∀ key ∈ r.keys, values.textOf key.name = others.textOf key.name := by decide +kernel
  have first : lacking.MissesFirst r.keys ⟨"user", false⟩ :=
    ⟨[], _, rfl, rfl, by decide +kernel, fun _ listed => absurd listed List.not_mem_nil⟩
  have supplied : ∀ key ∈ r.keys, key.optional = false → others.textOf key.name ≠ "" := by
    decide +kernel
  exact ⟨compiled, same, (format_depends_on_texts r values query).2.2.1 others same, first,
    ((format_depends_on_texts r lacking query).1 "user").mpr ⟨_, first, rfl⟩,
    (format_depends_on_texts r others none).2.1.mpr supplied⟩

end Route
end PathTemplate
