import PathTemplate.Proofs.Route.Matching

namespace PathTemplate

open Token (Captures)

/-!
# Every match can be formatted

A match has an entry for each declared parameter, and an entry without value belongs to an optional
parameter, since only these are ever left out of a decomposition.  The values that are there are not
empty.  So a match holds whatever formatting asks for, and formatting what was matched succeeds.

This does not say that the URL is the same again: values are encoded anew, literals are written as
they stand in the template, and the query is written in its own way.
-/

/-- What a match may hold for a parameter: a non-empty text, or nothing if it is optional. -/
def Key.Admits (key : Key) : Option String → Prop
  | none => key.optional = true
  | some value => value ≠ ""

namespace Params

theorem nonempty?_eq_some {values : Params} {name value : String}
    (found : values.find? name = some (some value)) (nonempty : value ≠ "") :
    values.nonempty? name = some value := by
  rw [nonempty?, get?, found, Option.join_some, Option.filter_some]
  exact if_pos (decide_eq_true nonempty)

/-- Admissible values are a complete supply. -/
theorem supplies_of_admits {values : Params} {keys : List Key}
    (admits : ∀ key ∈ keys, ∃ value, values.find? key.name = some value ∧ key.Admits value) :
    values.Supplies keys := by
  intro key member required
  rcases admits key member with ⟨value, found, admitted⟩
  cases value with
  | none =>
      have optional : key.optional = true := admitted
      rw [required] at optional
      cases optional
  | some value =>
      rw [nonempty?_eq_some found admitted]
      rfl

end Params

namespace Route

/-- Each declared parameter is paired with what its own capture was decoded to. -/
private theorem exists_mem_zip {keys : List Key} {choices : Captures}
    {decoded : List (Option String)} (allows : List.Forall₂ Key.Allows keys choices)
    (all : List.Forall₂ Decodes choices decoded) {key : Key} (member : key ∈ keys) :
    ∃ value, (key.name, value) ∈ (keys.map Key.name).zip decoded ∧
      (value = none → key.optional = true) := by
  induction allows generalizing decoded with
  | nil => cases member
  | @cons first choice keys choices allowed _ inductionHypothesis =>
      cases all with
      | @cons _ held _ later decodes allLater =>
          rcases List.mem_cons.mp member with rfl | further
          · refine ⟨held, List.mem_cons_self, ?_⟩
            rintro rfl
            cases choice with
            | none => exact allowed
            | some raw =>
                rcases decodes with ⟨text, -, impossible⟩
                cases impossible
          · rcases inductionHypothesis allLater further with ⟨value, listed, absent⟩
            exact ⟨value, List.mem_cons_of_mem _ listed, absent⟩

variable {text : String} {caseSensitive : Bool} {r : Route}

theorem admits_of_found (compiled : compile text caseSensitive = .ok r) {l : Location}
    {extent : Extent} {m : Match} (found : r.matchLocation l extent = .found m) :
    ∀ key ∈ r.keys, ∃ value, m.params.find? key.name = some value ∧ key.Admits value := by
  intro key member
  rcases entries_of_found compiled found with ⟨choices, decoded, prefers, all, -, entries⟩
  have allows : List.Forall₂ Key.Allows r.keys choices := prefers.1.allows
  rcases exists_mem_zip allows all member with ⟨value, listed, absent⟩
  rw [← entries] at listed
  refine ⟨value, OrderedMap.find?_eq_some_of_mem listed, ?_⟩
  cases value with
  | none => exact absent rfl
  | some shown =>
      rintro rfl
      exact ne_empty_of_found compiled found listed

/-- A path that a pattern accepts is never refused for the number of its captures.  A match names
the declared parameters, each of them once and in declaration order; the required ones have a
non-empty value, and the optional ones have one or none.  Formatting it succeeds. -/
theorem format_of_found (compiled : compile text caseSensitive = .ok r) (l : Location)
    (extent : Extent) :
    (∀ captures, (r.pattern extent).captures? l.pathname = some captures →
      captures.length = r.keys.length) ∧
    ∀ m, r.matchLocation l extent = .found m →
      m.params.names = r.keys.map Key.name ∧ (r.keys.map Key.name).Nodup ∧
      (∀ key ∈ r.keys, ∃ value, m.params.find? key.name = some value ∧ key.Admits value) ∧
      ∃ url, r.format m.params m.query = .ok url := by
  refine ⟨fun captures => Template.length_of_captures?, fun m found => ?_⟩
  have names := names_of_found compiled found
  have admits := admits_of_found compiled found
  have supplies : m.params.Supplies r.keys := Params.supplies_of_admits admits
  rcases Template.fillParts_of_supplies supplies with ⟨path, filled⟩
  have formatted : ∃ url, r.format m.params m.query = .ok url :=
    ⟨_, format_eq_ok.mpr ⟨path, filled, rfl⟩⟩
  exact ⟨names, nodup_names compiled, admits, formatted⟩

/-- Values within a segment and behind a dot, one of them optional and left out, in the leading
segments of an absolute URL. -/
theorem format_of_found_files :
    let r : Route := ⟨"/files/v:id.:ext?/:tab?", ⟨[.literal "/files/v", .param ⟨"id", false⟩ none,
      .param ⟨"ext", true⟩ (some '.'), .param ⟨"tab", true⟩ (some '/')]⟩, false⟩
    let l := Location.parse "http://h/Files/V%C3%A9/x%2Fy/more/?q=1&q=2"
    let m : Match := ⟨OrderedMap.ofList [("id", some "é"), ("ext", none), ("tab", some "x/y")],
      some (OrderedMap.ofList [("q", "2")])⟩
    compile "/files/v:id.:ext?/:tab?/" false = .ok r ∧ r.matchLocation l .leading = .found m ∧
      m.params.names = ["id", "ext", "tab"] ∧
      (∀ key ∈ r.keys, ∃ value, m.params.find? key.name = some value ∧ key.Admits value) ∧
      ∃ url, r.format m.params m.query = .ok url := by
  intro r l m
  have compiled : compile "/files/v:id.:ext?/:tab?/" false = .ok r := by decide +kernel
  have found : r.matchLocation l .leading = .found m := by decide +kernel
  rcases (format_of_found compiled l .leading).2 m found with ⟨names, -, admits, formatted⟩
  exact ⟨compiled, found, names.trans (by decide +kernel), admits, formatted⟩

end Route
end PathTemplate
