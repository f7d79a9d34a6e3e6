import PathTemplate.Template.Filling
import PathTemplate.Proofs.Matching.Decomposition
import PathTemplate.Proofs.Template.Reader
import PathTemplate.Proofs.Text.Percent

namespace PathTemplate

open Token

/-!
# Filled templates

Filling succeeds as soon as every required parameter has a non-empty value, and the path it builds
decomposes into the parts it was built from: literal texts as they are, values percent-encoded.
Percent-encoding hides the slashes of a value but not its dots, so a parameter behind a dot needs a
value without dots.  A matcher need not prefer that decomposition, or find its values readable.
-/

namespace Params

/-- The choices a filled template was built from: the encoded values of its parameters. -/
def written (values : Params) (keys : List Key) : Captures :=
  keys.map (fun key => (values.nonempty? key.name).map (fun value => Percent.encode value.toList))

theorem written_cons_some {values : Params} {key : Key} {value : String} {parts : List Part}
    {separator : Option Char} (found : values.nonempty? key.name = some value) :
    values.written ((Part.param key separator :: parts).filterMap Part.key?) =
      some (Percent.encode value.toList) :: values.written (parts.filterMap Part.key?) := by
  change (values.nonempty? key.name).map _ :: _ = _
  rw [found]
  rfl

theorem written_cons_none {values : Params} {key : Key} {parts : List Part}
    {separator : Option Char} (absent : values.nonempty? key.name = none) :
    values.written ((Part.param key separator :: parts).filterMap Part.key?) =
      none :: values.written (parts.filterMap Part.key?) := by
  change (values.nonempty? key.name).map _ :: _ = _
  rw [absent]
  rfl

theorem nonempty?_ne_empty {values : Params} {name value : String}
    (found : values.nonempty? name = some value) : value.toList ≠ [] := by
  rw [nonempty?, Option.filter_eq_some_iff] at found
  have different : value ≠ "" := of_decide_eq_true found.2
  intro empty
  exact different (String.toList_eq_nil_iff.mp empty)

/-- Every required parameter has a non-empty value. -/
def Supplies (values : Params) (keys : List Key) : Prop :=
  ∀ key ∈ keys, key.optional = false → (values.nonempty? key.name).isSome = true

instance (values : Params) (keys : List Key) : Decidable (values.Supplies keys) :=
  inferInstanceAs (Decidable (∀ key ∈ keys, _ → _))

/-- The first required parameter, in declaration order, that has no non-empty value. -/
def firstMissing? (values : Params) (keys : List Key) : Option Key :=
  keys.find? (fun key => !key.optional && (values.nonempty? key.name).isNone)

theorem firstMissing?_cons_of_missing {values : Params} {key : Key} {keys : List Key}
    (required : key.optional = false) (absent : values.nonempty? key.name = none) :
    values.firstMissing? (key :: keys) = some key :=
  List.find?_cons_of_pos (by simp [required, absent])

theorem firstMissing?_cons {values : Params} {key : Key} {keys : List Key}
    (supplied : ¬ (key.optional = false ∧ values.nonempty? key.name = none)) :
    values.firstMissing? (key :: keys) = values.firstMissing? keys :=
  List.find?_cons_of_neg (by simpa using supplied)

end Params

namespace Template

variable {values : Params}

theorem fill_param_eq_ok {key : Key} {separator : Option Char} {here : List Char} :
    (Part.param key separator).fill values = .ok here ↔
      (∃ value, values.nonempty? key.name = some value ∧
        here = separator.toList ++ Percent.encode value.toList) ∨
      (values.nonempty? key.name = none ∧ key.optional = true ∧ here = []) := by
  rw [Part.fill]
  cases found : values.nonempty? key.name with
  | some value =>
      constructor
      · intro filled
        cases filled
        exact Or.inl ⟨value, rfl, rfl⟩
      · rintro (⟨other, same, rfl⟩ | ⟨impossible, -, -⟩)
        · cases same
          rfl
        · cases impossible
  | none =>
      constructor
      · intro filled
        by_cases optional : key.optional = true
        · rw [if_pos optional] at filled
          cases filled
          exact Or.inr ⟨rfl, optional, rfl⟩
        · rw [if_neg optional] at filled
          cases filled
      · rintro (⟨other, impossible, -⟩ | ⟨-, optional, rfl⟩)
        · cases impossible
        · exact if_pos optional

theorem fillParts_cons_eq_ok {part : Part} {parts : List Part} {path : List Char} :
    fillParts values (part :: parts) = .ok path ↔
      ∃ here after, part.fill values = .ok here ∧ fillParts values parts = .ok after ∧
        path = here ++ after := by
  rw [fillParts]
  cases first : part.fill values with
  | error e => simp [bind, Except.bind]
  | ok here =>
      cases later : fillParts values parts with
      | error e => simp [bind, Except.bind]
      | ok after => simp [bind, Except.bind, pure, Except.pure, eq_comm]

/-- A parameter is filled unless it is required and has no value. -/
theorem exists_fill_param {key : Key} (separator : Option Char)
    (supplied : ¬ (key.optional = false ∧ values.nonempty? key.name = none)) :
    ∃ path, (Part.param key separator).fill values = .ok path := by
  cases found : values.nonempty? key.name with
  | some value => exact ⟨_, fill_param_eq_ok.mpr (Or.inl ⟨value, found, rfl⟩)⟩
  | none =>
      have optional : key.optional = true := by
        rw [← Bool.not_eq_false]
        exact fun required => supplied ⟨required, found⟩
      exact ⟨_, fill_param_eq_ok.mpr (Or.inr ⟨found, optional, rfl⟩)⟩

/-- Filling succeeds if all required values are there. -/
theorem fillParts_of_supplies {parts : List Part}
    (supplies : values.Supplies (parts.filterMap Part.key?)) :
    ∃ path, fillParts values parts = .ok path := by
  induction parts with
  | nil => exact ⟨[], rfl⟩
  | cons part parts inductionHypothesis =>
      cases part with
      | literal text =>
          rcases inductionHypothesis supplies with ⟨after, filled⟩
          exact ⟨_, fillParts_cons_eq_ok.mpr ⟨_, after, rfl, filled, rfl⟩⟩
      | param key separator =>
          have supplied : ¬ (key.optional = false ∧ values.nonempty? key.name = none) := by
            rintro ⟨required, absent⟩
            have present := supplies key List.mem_cons_self required
            rw [absent] at present
            cases present
          rcases exists_fill_param separator supplied with ⟨path, filled⟩
          rcases inductionHypothesis (fun k member => supplies k (List.mem_cons_of_mem _ member))
            with ⟨after, later⟩
          exact ⟨_, fillParts_cons_eq_ok.mpr ⟨path, after, filled, later, rfl⟩⟩

private theorem fillParts_cons_eq_error {part : Part} {parts : List Part} {here : List Char}
    (first : part.fill values = .ok here) {e : Error} :
    fillParts values (part :: parts) = .error e ↔ fillParts values parts = .error e := by
  rw [fillParts, first]
  cases fillParts values parts with
  | error other => simp [bind, Except.bind]
  | ok after => simp [bind, Except.bind, pure, Except.pure]

/-- Filling fails for the first required parameter without a value, and for nothing else. -/
theorem fillParts_eq_error {parts : List Part} {e : Error} :
    fillParts values parts = .error e ↔
      ∃ key, values.firstMissing? (parts.filterMap Part.key?) = some key ∧
        e = .missingParameter key.name := by
  induction parts with
  | nil => simp [fillParts, Params.firstMissing?]
  | cons part parts inductionHypothesis =>
      cases part with
      | literal text =>
          rw [fillParts_cons_eq_error rfl]
          exact inductionHypothesis
      | param key separator =>
          have keys : (Part.param key separator :: parts).filterMap Part.key? =
              key :: parts.filterMap Part.key? := rfl
          rw [keys]
          by_cases missing : key.optional = false ∧ values.nonempty? key.name = none
          · have refused : (Part.param key separator).fill values =
                .error (.missingParameter key.name) := by
              rw [Part.fill, missing.2, missing.1]
              rfl
            have failed : fillParts values (.param key separator :: parts) =
                .error (.missingParameter key.name) := by
              rw [fillParts, refused]
              rfl
            rw [failed, Params.firstMissing?_cons_of_missing missing.1 missing.2]
            simp only [Except.error.injEq, Option.some.injEq, exists_eq_left', eq_comm]
          · rcases exists_fill_param separator missing with ⟨here, filled⟩
            rw [fillParts_cons_eq_error filled, Params.firstMissing?_cons missing]
            exact inductionHypothesis

/-- What holds of the empty text, of every literal, of every value behind its separator, and of
texts put together, holds of what filling builds. -/
theorem fillParts_induction_taken (Holds : List Char → Prop) (nothing : Holds [])
    (together : ∀ {first second}, Holds first → Holds second → Holds (first ++ second))
    {parts : List Part} (literals : ∀ text, .literal text ∈ parts → Holds text.toList)
    (taken : ∀ key separator, .param key separator ∈ parts → ∀ value,
      values.nonempty? key.name = some value →
        Holds (separator.toList ++ Percent.encode value.toList))
    {path : List Char} (filled : fillParts values parts = .ok path) : Holds path := by
  induction parts generalizing path with
  | nil =>
      cases filled
      exact nothing
  | cons part parts inductionHypothesis =>
      rcases fillParts_cons_eq_ok.mp filled with ⟨here, after, first, later, rfl⟩
      refine together ?_ (inductionHypothesis
        (fun text member => literals text (List.mem_cons_of_mem _ member))
        (fun key separator member => taken key separator (List.mem_cons_of_mem _ member)) later)
      cases part with
      | literal text =>
          cases first
          exact literals text List.mem_cons_self
      | param key separator =>
          rcases fill_param_eq_ok.mp first with ⟨value, found, rfl⟩ | ⟨_, _, rfl⟩
          · exact taken key separator List.mem_cons_self value found
          · exact nothing

/-- What holds of the empty text, of every piece, and of texts put together, holds of what filling
builds. -/
theorem fillParts_induction (Holds : List Char → Prop) (nothing : Holds [])
    (together : ∀ {first second}, Holds first → Holds second → Holds (first ++ second))
    {parts : List Part} (literals : ∀ text, .literal text ∈ parts → Holds text.toList)
    (separators : ∀ key c, .param key (some c) ∈ parts → Holds [c])
    (encoded : ∀ key ∈ parts.filterMap Part.key?, ∀ value,
      values.nonempty? key.name = some value → Holds (Percent.encode value.toList))
    {path : List Char} (filled : fillParts values parts = .ok path) : Holds path := by
  apply fillParts_induction_taken Holds nothing together literals ?_ filled
  intro key separator member value found
  have declared : key ∈ parts.filterMap Part.key? := List.mem_filterMap.mpr ⟨_, member, rfl⟩
  apply together ?_ (encoded key declared value found)
  cases separator with
  | none => exact nothing
  | some c => exact separators key c member

/-! ## The decomposition a filled template was built from -/

/-- No value that is written behind a dot contains one. -/
def Dotless (values : Params) (parts : List Part) : Prop :=
  ∀ key, Part.param key (some '.') ∈ parts →
    ∀ value, values.nonempty? key.name = some value → '.' ∉ value.toList

theorem isValue_encode {value : List Char} (nonempty : value ≠ []) {excludesDot : Bool}
    (noDot : excludesDot = true → '.' ∉ value) : IsValue excludesDot (Percent.encode value) where
  nonempty := Percent.encode_ne_nil nonempty
  noSlash := Percent.not_mem_encode (by decide) (by decide)
  noDot excludes member := noDot excludes (Percent.dot_mem_encode member)

variable {agrees : Char → Char → Bool} {Leaves : List Char → Prop}

theorem spells_self (reflexive : ∀ c, agrees c c = true) (text : List Char) :
    Spells agrees text text :=
  List.forall₂_same.mpr (fun c _ => reflexive c)

/-- What filling builds, with a rest behind it, decomposes into what it was built from.  The last
slash of a literal at the very end counts as part of the rest. -/
theorem decomposes_fillParts (reflexive : ∀ c, agrees c c = true) {parts : List Part}
    {path rest : List Char} (filled : fillParts values parts = .ok path)
    (dotless : Dotless values parts) (leaves : Leaves rest)
    (slash : path ≠ [] → Leaves ('/' :: rest)) :
    Decomposes agrees Leaves parts (path ++ rest)
      (values.written (parts.filterMap Part.key?)) := by
  induction parts generalizing path with
  | nil =>
      cases filled
      exact .done leaves
  | cons part parts inductionHypothesis =>
      rcases fillParts_cons_eq_ok.mp filled with ⟨here, after, first, later, rfl⟩
      have dotlessLater : Dotless values parts :=
        fun key member => dotless key (List.mem_cons_of_mem _ member)
      have slashLater : after ≠ [] → Leaves ('/' :: rest) :=
        fun nonempty => slash (List.append_ne_nil_of_right_ne_nil here nonempty)
      have decomposes := inductionHypothesis later dotlessLater slashLater
      rw [List.append_assoc]
      cases part with
      | literal text =>
          cases first
          by_cases last : parts = []
          · subst last
            cases later
            rcases dropFinalSlash_append text.toList with whole | cut
            · have spelled := spells_self reflexive (dropFinalSlash text.toList)
              have decomposed := Decomposes.lastLiteral spelled leaves
              rwa [← whole] at decomposed
            · have nonempty : text.toList ++ [] ≠ [] := by
                rw [cut]
                simp
              have spelled := spells_self reflexive (dropFinalSlash text.toList)
              have decomposed := Decomposes.lastLiteral spelled (slash nonempty)
              rwa [List.append_cons, ← cut] at decomposed
          · exact .literal last (spells_self reflexive _) decomposes
      | param key separator =>
          rcases fill_param_eq_ok.mp first with ⟨value, found, rfl⟩ | ⟨found, optional, rfl⟩
          · have isValue : IsValue (separator == some '.') (Percent.encode value.toList) := by
              refine isValue_encode (Params.nonempty?_ne_empty found) (fun dot => ?_)
              rw [beq_iff_eq] at dot
              subst dot
              exact dotless key List.mem_cons_self value found
            rw [Params.written_cons_some found, List.append_assoc]
            exact .taken (spells_self reflexive _) isValue decomposes
          · rw [Params.written_cons_none found]
            exact .omitted optional decomposes

end Template
end PathTemplate
