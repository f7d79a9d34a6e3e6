import PathTemplate.Proofs.Route.RoundTrip

namespace PathTemplate

/-!
# Rewriting reads, modifies and writes

Rewriting a location reads it, writes the overrides over what was read, and formats the result.
Matching the new URL shows what was formatted, so only the overridden values change.  What is shown
also fills the template to the same path again: a rewritten URL is its own rewriting.
-/

namespace Match

/-- The values of a match with some of them overridden. -/
def overriddenParams (m : Match) (overrides : Option Params) : Params :=
  overrides.elim m.params m.params.merge

/-- The query of a match with some of its values overridden. -/
def overriddenQuery (m : Match) (overrides : Option Query) : Query :=
  overrides.elim (m.query.getD OrderedMap.empty) (m.query.getD OrderedMap.empty).merge

end Match

namespace Params

/-- Non-empty values are shown as they are. -/
theorem nonempty?_of_find? {values others : Params} {name : String}
    (shown : values.find? name = some (others.nonempty? name)) :
    values.nonempty? name = others.nonempty? name := by
  calc
    values.nonempty? name = (others.nonempty? name).filter (· ≠ "") := by
      rw [nonempty?, get?, shown, Option.join_some]
    _ = others.nonempty? name := by
      simp only [nonempty?, Option.filter_filter, Bool.and_self]

end Params

namespace Template

/-- Filling depends on the non-empty values of the declared parameters only. -/
theorem fillParts_congr {values others : Params} {parts : List Part}
    (same : ∀ key ∈ parts.filterMap Part.key?,
      values.nonempty? key.name = others.nonempty? key.name) :
    fillParts values parts = fillParts others parts := by
  induction parts with
  | nil => rfl
  | cons part parts inductionHypothesis =>
      cases part with
      | literal text => rw [fillParts, fillParts, inductionHypothesis same, Part.fill, Part.fill]
      | param key separator =>
          have later := inductionHypothesis
            (fun other member => same other (List.mem_cons_of_mem _ member))
          have here : (Part.param key separator).fill values =
              (Part.param key separator).fill others := by
            rw [Part.fill, Part.fill, same key List.mem_cons_self]
          rw [fillParts, fillParts, here, later]

end Template

namespace Route

variable {r : Route}

theorem map_eq_ok {α β : Type} {result : Except Error α} {f : α → β} {b : β} :
    result.map f = .ok b ↔ ∃ a, result = .ok a ∧ f a = b := by
  cases result <;> simp [Except.map]

theorem map_eq_error {α β : Type} {result : Except Error α} {f : α → β} {e : Error} :
    result.map f = .error e ↔ result = .error e := by
  cases result <;> simp [Except.map]

theorem format_congr {values others : Params}
    (same : ∀ key ∈ r.keys, values.nonempty? key.name = others.nonempty? key.name)
    (query : Option Query) : r.format values query = r.format others query := by
  rw [format, format, Template.fill, Template.fill, Template.fillParts_congr same]

theorem replace_of_noMatch {l : Location} (unmatched : r.matchLocation l .whole = .noMatch)
    (values : Option Params) (query : Option Query) : r.replace l values query = .ok none := by
  rw [replace, unmatched]

/-- Rewriting formats what was read, with the overrides written over it. -/
theorem replace_of_found {l : Location} {m : Match}
    (matched : r.matchLocation l .whole = .found m) (values : Option Params)
    (query : Option Query) :
    r.replace l values query =
      (r.format (m.overriddenParams values) (some (m.overriddenQuery query))).map some := by
  rw [replace, matched]
  rfl

theorem replace_eq_ok {l : Location} {m : Match} (matched : r.matchLocation l .whole = .found m)
    {values : Option Params} {query : Option Query} {url : String} :
    r.replace l values query = .ok (some url) ↔
      r.format (m.overriddenParams values) (some (m.overriddenQuery query)) = .ok url := by
  simp [replace_of_found matched, map_eq_ok]

variable {text : String} {caseSensitive : Bool}

/-- A value that is read is shown again unless it is overridden. -/
theorem nonempty?_overriddenParams (compiled : compile text caseSensitive = .ok r) {l : Location}
    {m : Match} (matched : r.matchLocation l .whole = .found m) {overrides : Option Params}
    {key : Key} (declared : key ∈ r.keys) (kept : ∀ given ∈ overrides, key.name ∉ given.names) :
    some ((m.overriddenParams overrides).nonempty? key.name) = m.params.find? key.name := by
  have listed : key.name ∈ m.params.names := by
    rw [names_of_found compiled matched]
    exact List.mem_map_of_mem declared
  rcases List.mem_map.mp listed with ⟨⟨name, value⟩, member, rfl⟩
  have found := OrderedMap.find?_eq_some_of_mem member
  have unchanged : (m.overriddenParams overrides).find? key.name = m.params.find? key.name := by
    cases overrides with
    | none => rfl
    | some given => exact m.params.find?_merge_of_not_mem given (kept given rfl)
  rw [Params.nonempty?, Params.get?, unchanged, found, Option.join_some]
  cases value with
  | none => rfl
  | some value =>
      have shown : value ≠ "" := by
        rintro rfl
        exact ne_empty_of_found compiled matched member
      rw [Option.filter_some, if_pos (decide_eq_true shown)]

theorem find?_overriddenQuery (m : Match) {overrides : Option Query} {name : String}
    (kept : ∀ given ∈ overrides, name ∉ given.names) :
    (m.overriddenQuery overrides).find? name = (m.query.getD OrderedMap.empty).find? name := by
  cases overrides with
  | none => rfl
  | some given => exact OrderedMap.find?_merge_of_not_mem _ given (kept given rfl)

/-- A query that is shown only if it has entries is, where it is not shown, empty. -/
theorem getD_filter_isEmpty (query : Query) :
    ((some query).filter (fun q => !q.isEmpty)).getD OrderedMap.empty = query := by
  rw [Option.filter_some]
  cases empty : query.isEmpty with
  | false => rfl
  | true => exact OrderedMap.ext (List.isEmpty_iff.mp empty).symm

/-- A rewritten location shows, for each declared name, the overriding value or else the one that was
read, and likewise the query.  Names that are not overridden keep their values, and rewriting the
result without overrides changes nothing. -/
theorem replace_reads_back (compiled : compile text caseSensitive = .ok r)
    (segmented : r.template.IsSegmented) {l : Location} {m : Match}
    (matched : r.matchLocation l .whole = .found m) (overrides : Option Params)
    (queryOverrides : Option Query) {url : String}
    (replaced : r.replace l overrides queryOverrides = .ok (some url))
    (atEnd : (m.overriddenParams overrides).OmitsOnlyAtEnd r.template.parts) :
    ∃ after, r.matchUrl url .whole = .found after ∧
      after.params.entries =
        r.keys.map (fun key => (key.name, (m.overriddenParams overrides).nonempty? key.name)) ∧
      after.query = (some (m.overriddenQuery queryOverrides)).filter (fun q => !q.isEmpty) ∧
      (∀ key ∈ r.keys, (∀ given ∈ overrides, key.name ∉ given.names) →
        after.params.find? key.name = m.params.find? key.name) ∧
      (∀ name, (∀ given ∈ queryOverrides, name ∉ given.names) →
        (after.query.getD OrderedMap.empty).find? name =
          (m.query.getD OrderedMap.empty).find? name) ∧
      r.replace (Location.parse url) none none = .ok (some url) := by
  have formatted := (replace_eq_ok matched).mp replaced
  have again := matchUrl_format segmented atEnd formatted
  have shown : ∀ key ∈ r.keys,
      (OrderedMap.ofList (r.keys.map fun k =>
          (k.name, (m.overriddenParams overrides).nonempty? k.name))).find? key.name =
        some ((m.overriddenParams overrides).nonempty? key.name) :=
    fun key member => OrderedMap.find?_ofList_map _ _ _ (nodup_names compiled) member
  refine ⟨_, again, entries_ofList_keys compiled _, rfl, ?_, ?_, ?_⟩
  · intro key declared kept
    rw [shown key declared]
    exact nonempty?_overriddenParams compiled matched declared kept
  · intro name kept
    rw [getD_filter_isEmpty]
    exact find?_overriddenQuery m kept
  · refine (replace_eq_ok again).mpr ?_
    change r.format _ (some (Option.getD _ _)) = _
    rw [getD_filter_isEmpty, ← formatted]
    refine format_congr (fun key declared => ?_) _
    exact Params.nonempty?_of_find? (shown key declared)

/-- An absolute URL in other letter case with a repeated query name; one value is dropped, one is
undeclared, and the query is extended. -/
theorem replace_reads_back_users :
    let r : Route := ⟨"/users/:id/:tab?", ⟨[.literal "/users", .param ⟨"id", false⟩ (some '/'),
      .param ⟨"tab", true⟩ (some '/')]⟩, false⟩
    let l := Location.parse "https://example.com/USERS/a%2Fb/info/?page=2&x=1&page=3#top"
    let overrides : Params := OrderedMap.ofList [("tab", none), ("ghost", some "boo")]
    let queryOverrides : Query := OrderedMap.ofList [("q", "é"), ("x", "")]
    ∃ m after, compile "/users/:id/:tab?" false = .ok r ∧ r.matchLocation l .whole = .found m ∧
      r.replace l (some overrides) (some queryOverrides) =
        .ok (some "/users/a%2Fb?page=3&x=&q=%C3%A9") ∧
      r.matchUrl "/users/a%2Fb?page=3&x=&q=%C3%A9" .whole = .found after ∧
      after.params.entries = [("id", some "a/b"), ("tab", none)] ∧
      after.query = some (OrderedMap.ofList [("page", "3"), ("x", ""), ("q", "é")]) := by
  intro r l overrides queryOverrides
  have compiled : compile "/users/:id/:tab?" false = .ok r := by decide +kernel
  have matched : r.matchLocation l .whole =
      .found ⟨OrderedMap.ofList [("id", some "a/b"), ("tab", some "info")],
        some (OrderedMap.ofList [("page", "3"), ("x", "1")])⟩ := by decide +kernel
  have replaced : r.replace l (some overrides) (some queryOverrides) =
      .ok (some "/users/a%2Fb?page=3&x=&q=%C3%A9") := by decide +kernel
  rcases replace_reads_back compiled (by decide +kernel) matched (some overrides)
    (some queryOverrides) replaced (by decide +kernel) with ⟨after, found, params, query, -⟩
  exact ⟨_, after, compiled, matched, replaced, found, params.trans (by decide +kernel),
    query.trans (by decide +kernel)⟩

end Route
end PathTemplate
