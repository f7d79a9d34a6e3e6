import PathTemplate.Proofs.Matching.Decomposition
import PathTemplate.Proofs.Route.Formatting

namespace PathTemplate

open Token (Captures)

/-!
# What a match holds

A match has one entry for each declared parameter, in declaration order.  Its values are decoded
from captures, which are never empty, and decoding empties nothing, so a value that is there is not
empty either.
-/

/-- No parameter takes an empty value. -/
theorem Key.ne_nil_of_allows {keys : List Key} {choices : Captures}
    (allows : List.Forall₂ Key.Allows keys choices) {value : List Char}
    (member : some value ∈ choices) : value ≠ [] := by
  induction allows with
  | nil => cases member
  | cons allowed _ inductionHypothesis =>
      rcases List.mem_cons.mp member with same | later
      · subst same
        exact allowed.nonempty
      · exact inductionHypothesis later

namespace Route

/-- A capture is decoded to a value, and no capture to none. -/
def Decodes : Option (List Char) → Option String → Prop
  | none, value => value = none
  | some raw, value => ∃ text, Percent.decode? raw = some text ∧ value = some (String.ofList text)

private theorem bind_cons_eq_some_iff {key : Key} {keys : List Key} {choice : Option (List Char)}
    {choices : Captures} {values : List (String × Option String)} :
    bind (key :: keys) (Template.spellOut (choice :: choices)) = some values ↔
      ∃ held later, Decodes choice held ∧ bind keys (Template.spellOut choices) = some later ∧
        values = (key.name, held) :: later := by
  rw [Template.spellOut, List.map_cons]
  cases choice with
  | none =>
      rw [Option.map_none, bind, Option.map_eq_some_iff]
      constructor
      · rintro ⟨later, bound, rfl⟩
        exact ⟨none, later, rfl, bound, rfl⟩
      · rintro ⟨held, later, rfl, bound, rfl⟩
        exact ⟨later, bound, rfl⟩
  | some raw =>
      rw [Option.map_some, bind, String.toList_ofList]
      cases read : Percent.decode? raw with
      | none =>
          constructor
          · intro impossible
            cases impossible
          · rintro ⟨held, later, ⟨text, decoded, -⟩, -⟩
            rw [read] at decoded
            cases decoded
      | some text =>
          dsimp only
          rw [Option.map_eq_some_iff]
          constructor
          · rintro ⟨later, bound, rfl⟩
            exact ⟨_, later, ⟨text, read, rfl⟩, bound, rfl⟩
          · rintro ⟨held, later, ⟨other, decoded, rfl⟩, bound, rfl⟩
            rw [read] at decoded
            cases decoded
            exact ⟨later, bound, rfl⟩

/-- Only an empty capture is decoded to the empty text. -/
private theorem eq_of_decodes_empty {choice : Option (List Char)}
    (decodes : Decodes choice (some "")) : choice = some [] := by
  cases choice with
  | none => cases decodes
  | some raw =>
      rcases decodes with ⟨text, read, same⟩
      have empty : text = [] := String.ofList_eq_empty_iff.mp (Option.some.inj same).symm
      rw [empty] at read
      rw [Percent.eq_nil_of_decode?_eq_some_nil read]

private theorem mem_of_decodes_empty {choices : Captures} {decoded : List (Option String)}
    (all : List.Forall₂ Decodes choices decoded) (member : some "" ∈ decoded) :
    some [] ∈ choices := by
  induction all with
  | nil => cases member
  | cons decodes _ inductionHypothesis =>
      rcases List.mem_cons.mp member with same | later
      · subst same
        rw [eq_of_decodes_empty decodes]
        exact List.mem_cons_self
      · exact List.mem_cons_of_mem _ (inductionHypothesis later)

/-- Binding pairs the names with the decoded captures, provided that all of them can be decoded. -/
theorem bind_eq_some_iff {keys : List Key} {choices : Captures}
    (sameLength : choices.length = keys.length) {values : List (String × Option String)} :
    bind keys (Template.spellOut choices) = some values ↔
      ∃ decoded, List.Forall₂ Decodes choices decoded ∧
        values = (keys.map Key.name).zip decoded := by
  induction keys generalizing choices values with
  | nil =>
      cases List.length_eq_zero_iff.mp sameLength
      constructor
      · intro bound
        cases bound
        exact ⟨[], .nil, rfl⟩
      · rintro ⟨decoded, _, rfl⟩
        rfl
  | cons key keys inductionHypothesis =>
      cases choices with
      | nil => cases sameLength
      | cons choice choices =>
          have laterLength := Nat.succ.inj sameLength
          rw [bind_cons_eq_some_iff]
          constructor
          · rintro ⟨held, later, decodes, bound, rfl⟩
            rcases (inductionHypothesis laterLength).mp bound with ⟨decoded, all, rfl⟩
            exact ⟨held :: decoded, .cons decodes all, rfl⟩
          · rintro ⟨decoded, all, rfl⟩
            cases all with
            | cons decodes all =>
                exact ⟨_, _, decodes, (inductionHypothesis laterLength).mpr ⟨_, all, rfl⟩, rfl⟩

/-- What a match consists of. -/
theorem matchLocation_eq_found {r : Route} {l : Location} {extent : Extent} {m : Match} :
    r.matchLocation l extent = .found m ↔
      ∃ choices values, r.template.Prefers extent r.caseSensitive l.pathname choices ∧
        bind r.keys (Template.spellOut choices) = some values ∧
        m = ⟨OrderedMap.ofList values, l.search.map Query.parse⟩ := by
  rw [matchLocation_eq_bind, pattern]
  constructor
  · intro found
    cases captured : (Pattern.ofTemplate r.template extent r.caseSensitive).captures? l.pathname with
    | none =>
        rw [captured] at found
        cases found
    | some captures =>
        rw [captured] at found
        rcases (r.template.captures?_eq_some_iff _ _ _ _).mp captured with ⟨choices, rfl, prefers⟩
        cases bound : bind r.keys (Template.spellOut choices) with
        | none => simp [bound] at found
        | some values =>
            simp only [bound, MatchResult.found.injEq] at found
            exact ⟨choices, values, prefers, bound, found.symm⟩
  · rintro ⟨choices, values, prefers, bound, rfl⟩
    rw [(r.template.captures?_eq_some_iff _ _ _ _).mpr ⟨choices, rfl, prefers⟩]
    simp only [bound]

/-- The names of a compiled template are distinct. -/
theorem nodup_names {text : String} {caseSensitive : Bool} {r : Route}
    (compiled : compile text caseSensitive = .ok r) : (r.keys.map Key.name).Nodup :=
  Template.nodup_names_of_read (compile_eq_ok compiled).1

/-- A match pairs the declared names, in declaration order, with decoded captures. -/
theorem entries_of_found {text : String} {caseSensitive : Bool} {r : Route}
    (compiled : compile text caseSensitive = .ok r) {l : Location} {extent : Extent} {m : Match}
    (found : r.matchLocation l extent = .found m) :
    ∃ choices decoded, r.template.Prefers extent r.caseSensitive l.pathname choices ∧
      List.Forall₂ Decodes choices decoded ∧ (r.keys.map Key.name).length ≤ decoded.length ∧
      m.params.entries = (r.keys.map Key.name).zip decoded := by
  rcases matchLocation_eq_found.mp found with ⟨choices, values, prefers, bound, rfl⟩
  have choiceLength : choices.length = r.keys.length := prefers.1.length_eq
  rcases (bind_eq_some_iff choiceLength).mp bound with ⟨decoded, all, rfl⟩
  have enough : (r.keys.map Key.name).length ≤ decoded.length := by
    rw [List.length_map, ← choiceLength]
    exact Nat.le_of_eq all.length_eq
  refine ⟨choices, decoded, prefers, all, enough, OrderedMap.entries_ofList ?_⟩
  rw [List.map_fst_zip enough]
  exact nodup_names compiled

theorem names_of_found {text : String} {caseSensitive : Bool} {r : Route}
    (compiled : compile text caseSensitive = .ok r) {l : Location} {extent : Extent} {m : Match}
    (found : r.matchLocation l extent = .found m) : m.params.names = r.keys.map Key.name := by
  rcases entries_of_found compiled found with ⟨choices, decoded, -, -, enough, entries⟩
  rw [OrderedMap.names, entries, List.map_fst_zip enough]

/-- No value of a match is empty. -/
theorem ne_empty_of_found {text : String} {caseSensitive : Bool} {r : Route}
    (compiled : compile text caseSensitive = .ok r) {l : Location} {extent : Extent} {m : Match}
    (found : r.matchLocation l extent = .found m) {name : String} :
    (name, some "") ∉ m.params.entries := by
  rcases entries_of_found compiled found with ⟨choices, decoded, prefers, all, -, entries⟩
  intro member
  rw [entries] at member
  have captured := mem_of_decodes_empty all (List.of_mem_zip member).2
  exact Key.ne_nil_of_allows prefers.1.allows captured rfl

end Route
end PathTemplate
