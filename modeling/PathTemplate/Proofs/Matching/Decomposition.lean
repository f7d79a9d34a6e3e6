import PathTemplate.Pattern.Basic
import PathTemplate.Proofs.Matching.Preference
import PathTemplate.Proofs.Template.Reader
import PathTemplate.Proofs.Text.Separator

namespace PathTemplate

open Token

/-!
# The meaning of a pattern

A path matches a template if it can be decomposed: every parameter, in declaration order, takes a
value or, if it is optional, is left out, such that the path is the literal texts and the separated
values one after the other, and then a rest that the pattern allows.  Nothing is said here about how
a decomposition is found, and a path may have many.

The matcher returns the choices of one of them, the one that no other precedes.
-/

namespace Extent

/-- What may be left of a path: at most a slash of the whole path, or whatever a slash separates
from its leading segments. -/
def Leaves : Extent → List Char → Prop
  | whole, rest => rest = [] ∨ rest = ['/']
  | leading, rest => Boundary '/' rest

theorem allows_iff (extent : Extent) (rest : List Char) :
    extent.allows rest = true ↔ extent.Leaves rest := by
  cases extent with
  | whole => simp [allows, Leaves]
  | leading =>
      cases rest with
      | nil => simp [allows, Leaves, Boundary]
      | cons c more => simp [allows, Leaves, Boundary]

theorem Leaves.boundary {extent : Extent} {rest : List Char} (leaves : extent.Leaves rest) :
    Boundary '/' rest := by
  cases extent with
  | whole =>
      rcases leaves with rfl | rfl
      · exact .nil
      · exact .cons _
  | leading => exact leaves

end Extent

/-- What a parameter may be given: a value, or none if it is optional. -/
def Key.Allows (key : Key) : Option (List Char) → Prop
  | none => key.optional = true
  | some taken => IsValue false taken

namespace Template

/-- A way to read a path as a sequence of parts, given by the choice made for each parameter.  Every
value is a value of its parameter, and `Leaves` holds of what the parts leave of the path. -/
inductive Decomposes (agrees : Char → Char → Bool) (Leaves : List Char → Prop) :
    List Part → List Char → Captures → Prop where
  /-- No parts are left, and the rest of the path may be left as well. -/
  | done {rest : List Char} (leaves : Leaves rest) : Decomposes agrees Leaves [] rest []
  /-- A literal with parts behind it stands in the path as it is. -/
  | literal {text : String} {parts : List Part} {piece path : List Char} {choices : Captures}
      (more : parts ≠ []) (spelled : Spells agrees text.toList piece)
      (later : Decomposes agrees Leaves parts path choices) :
      Decomposes agrees Leaves (.literal text :: parts) (piece ++ path) choices
  /-- The literal that is the last part of all stands there without a final slash. -/
  | lastLiteral {text : String} {piece rest : List Char}
      (spelled : Spells agrees (dropFinalSlash text.toList) piece) (leaves : Leaves rest) :
      Decomposes agrees Leaves [.literal text] (piece ++ rest) []
  /-- A parameter takes a value, behind its separator if it owns one. -/
  | taken {key : Key} {separator : Option Char} {parts : List Part}
      {lead value path : List Char} {choices : Captures}
      (spelled : Spells agrees separator.toList lead)
      (isValue : IsValue (separator == some '.') value)
      (later : Decomposes agrees Leaves parts path choices) :
      Decomposes agrees Leaves (.param key separator :: parts) (lead ++ (value ++ path))
        (some value :: choices)
  /-- An optional parameter is left out, and its separator with it. -/
  | omitted {key : Key} {separator : Option Char} {parts : List Part} {path : List Char}
      {choices : Captures} (optional : key.optional = true)
      (later : Decomposes agrees Leaves parts path choices) :
      Decomposes agrees Leaves (.param key separator :: parts) path (none :: choices)

variable {agrees : Char → Char → Bool} {Leaves : List Char → Prop}

/-- There is one choice for each parameter, and it is one that the parameter has. -/
theorem Decomposes.allows {parts : List Part} {path : List Char} {choices : Captures}
    (decomposes : Decomposes agrees Leaves parts path choices) :
    List.Forall₂ Key.Allows (parts.filterMap Part.key?) choices := by
  induction decomposes with
  | done _ => exact .nil
  | literal _ _ _ inductionHypothesis => exact inductionHypothesis
  | lastLiteral _ _ => exact .nil
  | taken _ isValue _ inductionHypothesis =>
      have ofSegment : IsValue false _ := ⟨isValue.nonempty, isValue.noSlash, nofun⟩
      exact .cons ofSegment inductionHypothesis
  | omitted optional _ inductionHypothesis => exact .cons optional inductionHypothesis

theorem Decomposes.length_eq {parts : List Part} {path : List Char} {choices : Captures}
    (decomposes : Decomposes agrees Leaves parts path choices) :
    choices.length = (parts.filterMap Part.key?).length :=
  decomposes.allows.length_eq.symm

/-! ## Inversion -/

theorem decomposes_literal_iff {text : String} {parts : List Part} (more : parts ≠ [])
    {path : List Char} {choices : Captures} :
    Decomposes agrees Leaves (.literal text :: parts) path choices ↔
      ∃ piece rest, path = piece ++ rest ∧ Spells agrees text.toList piece ∧
        Decomposes agrees Leaves parts rest choices := by
  constructor
  · intro decomposes
    cases decomposes with
    | literal _ spelled later => exact ⟨_, _, rfl, spelled, later⟩
    | lastLiteral _ _ => exact absurd rfl more
  · rintro ⟨piece, rest, rfl, spelled, later⟩
    exact .literal more spelled later

theorem decomposes_lastLiteral_iff {text : String} {path : List Char} {choices : Captures} :
    Decomposes agrees Leaves [.literal text] path choices ↔
      ∃ piece rest, path = piece ++ rest ∧ Spells agrees (dropFinalSlash text.toList) piece ∧
        Leaves rest ∧ choices = [] := by
  constructor
  · intro decomposes
    cases decomposes with
    | literal more _ _ => exact absurd rfl more
    | lastLiteral spelled leaves => exact ⟨_, _, rfl, spelled, leaves, rfl⟩
  · rintro ⟨piece, rest, rfl, spelled, leaves, rfl⟩
    exact .lastLiteral spelled leaves

/-- The text of a literal that stands in the path: all of it, if there are parts behind it. -/
def standing (text : String) : List Part → List Char
  | [] => dropFinalSlash text.toList
  | _ :: _ => text.toList

theorem standing_of_ne_nil {text : String} {parts : List Part} (more : parts ≠ []) :
    standing text parts = text.toList := by
  cases parts with
  | nil => exact absurd rfl more
  | cons part parts => rfl

theorem decomposes_standing_iff {text : String} {parts : List Part} {path : List Char}
    {choices : Captures} :
    Decomposes agrees Leaves (.literal text :: parts) path choices ↔
      ∃ piece rest, path = piece ++ rest ∧ Spells agrees (standing text parts) piece ∧
        Decomposes agrees Leaves parts rest choices := by
  cases parts with
  | nil =>
      rw [decomposes_lastLiteral_iff]
      constructor
      · rintro ⟨piece, rest, rfl, spelled, leaves, rfl⟩
        exact ⟨piece, rest, rfl, spelled, .done leaves⟩
      · rintro ⟨piece, rest, rfl, spelled, ⟨leaves⟩⟩
        exact ⟨piece, rest, rfl, spelled, leaves, rfl⟩
  | cons part parts => exact decomposes_literal_iff (List.cons_ne_nil _ _)

theorem decomposes_param_iff {key : Key} {separator : Option Char} {parts : List Part}
    {path : List Char} {choices : Captures} :
    Decomposes agrees Leaves (.param key separator :: parts) path choices ↔
      (∃ lead value rest later, path = lead ++ (value ++ rest) ∧ choices = some value :: later ∧
        Spells agrees separator.toList lead ∧ IsValue (separator == some '.') value ∧
        Decomposes agrees Leaves parts rest later) ∨
      (key.optional = true ∧ ∃ later, choices = none :: later ∧
        Decomposes agrees Leaves parts path later) := by
  constructor
  · intro decomposes
    cases decomposes with
    | taken spelled isValue later =>
        exact Or.inl ⟨_, _, _, _, rfl, rfl, spelled, isValue, later⟩
    | omitted optional later => exact Or.inr ⟨optional, _, rfl, later⟩
  · rintro (⟨lead, value, rest, later, rfl, rfl, spelled, isValue, decomposes⟩ |
      ⟨optional, later, rfl, decomposes⟩)
    · exact .taken spelled isValue decomposes
    · exact .omitted optional decomposes

/-! ## How a path begins -/

/-- A text begins with a marked character, unless it is over. -/
def OpensWith (Marked : Char → Prop) (path : List Char) : Prop :=
  path = [] ∨ ∃ c rest, path = c :: rest ∧ Marked c

theorem opensWith_of_boundary {Marked : Char → Prop} {sep : Char} (marked : Marked sep)
    {path : List Char} (boundary : Boundary sep path) : OpensWith Marked path := by
  rcases boundary with rfl | ⟨more, rfl⟩
  · exact Or.inl rfl
  · exact Or.inr ⟨sep, more, rfl, marked⟩

/-- The text of a sequence of parts begins with a marked character: the first part does, and if it
can be left out then so does what follows it. -/
def LeadsWith (Marked : Char → Prop) : List Part → Prop
  | [] => True
  | .literal text :: _ => ∃ c, text.toList.head? = some c ∧ Marked c
  | .param key separator :: parts =>
      (∃ c, separator = some c ∧ Marked c) ∧ (key.optional = true → LeadsWith Marked parts)

variable {Marked : Char → Prop}

private theorem opensWith_of_spells (closed : ∀ c d, agrees c d = true → Marked c → Marked d)
    {text piece rest : List Char} {c : Char} (head : text.head? = some c) (marked : Marked c)
    (spelled : Spells agrees text piece) : OpensWith Marked (piece ++ rest) := by
  cases spelled with
  | nil => cases head
  | cons fit _ =>
      cases head
      exact Or.inr ⟨_, _, rfl, closed _ _ fit marked⟩

/-- What the parts promise holds of every path that decomposes into them. -/
theorem Decomposes.opensWith (closed : ∀ c d, agrees c d = true → Marked c → Marked d)
    (leavesOpen : ∀ rest, Leaves rest → OpensWith Marked rest) {parts : List Part}
    {path : List Char} {choices : Captures}
    (decomposes : Decomposes agrees Leaves parts path choices) (leads : LeadsWith Marked parts) :
    OpensWith Marked path := by
  induction decomposes with
  | done leaves => exact leavesOpen _ leaves
  | literal _ spelled _ _ =>
      rcases leads with ⟨c, head, marked⟩
      exact opensWith_of_spells closed head marked spelled
  | @lastLiteral text piece rest spelled leaves =>
      rcases leads with ⟨c, head, marked⟩
      cases kept : dropFinalSlash text.toList with
      | nil =>
          rw [kept] at spelled
          cases spelled
          exact leavesOpen _ leaves
      | cons first others =>
          have sameHead : (dropFinalSlash text.toList).head? = some c := by
            rcases dropFinalSlash_append text.toList with whole | cut
            · rwa [← whole]
            · rw [cut, kept] at head
              rwa [kept]
          exact opensWith_of_spells closed sameHead marked spelled
  | taken spelled _ _ _ =>
      rcases leads.1 with ⟨c, rfl, marked⟩
      exact opensWith_of_spells closed rfl marked spelled
  | omitted optional _ inductionHypothesis => exact inductionHypothesis (leads.2 optional)

/-! ## The search of a template selects a decomposition -/

variable {ends : List Char → Bool}

private theorem selects_done (endsIff : ∀ rest, ends rest = true ↔ Leaves rest) :
    Selects (search agrees ends []) (fun path choices => Leaves path ∧ choices = []) where
  sound := by
    intro path choices found
    rw [search] at found
    by_cases leaves : ends path = true
    · rw [if_pos leaves] at found
      cases found
      exact ⟨(endsIff path).mp leaves, rfl⟩
    · rw [if_neg leaves] at found
      cases found
  best := by
    rintro path choices ⟨leaves, rfl⟩
    rw [search, if_pos ((endsIff path).mpr leaves)]
    exact ⟨[], rfl, Or.inl rfl⟩

private theorem selects_param {parts : List Part}
    (selects : Selects (search agrees ends (tokensOf parts)) (Decomposes agrees Leaves parts))
    (key : Key) (separator : Option Char) :
    Selects (search agrees ends ((Part.param key separator).tokens ++ tokensOf parts))
      (Decomposes agrees Leaves (.param key separator :: parts)) := by
  by_cases optional : key.optional = true
  · rw [Part.tokens, if_pos optional]
    refine (selects.searchOptional separator _).congr (fun path choices => ?_)
    rw [decomposes_param_iff, and_iff_right optional]
  · rw [Part.tokens, if_neg optional, List.append_assoc]
    have value : Selects
        (search agrees ends (.value (separator == some '.') :: tokensOf parts)) _ :=
      selects.searchValue (separator == some '.')
    refine (value.searchText separator.toList).congr (fun path choices => ?_)
    rw [decomposes_param_iff, or_iff_left (fun omitted => optional omitted.1)]
    constructor
    · rintro ⟨lead, tail, rfl, spelled, value, rest, later, rfl, rfl, isValue, decomposes⟩
      exact ⟨lead, value, rest, later, rfl, rfl, spelled, isValue, decomposes⟩
    · rintro ⟨lead, value, rest, later, rfl, rfl, spelled, isValue, decomposes⟩
      exact ⟨lead, _, rfl, spelled, value, rest, later, rfl, rfl, isValue, decomposes⟩

theorem selects_decomposes (endsIff : ∀ rest, ends rest = true ↔ Leaves rest)
    (parts : List Part) :
    Selects (search agrees ends (tokensOf parts)) (Decomposes agrees Leaves parts) := by
  induction parts using tokensOf.induct with
  | case1 =>
      refine (selects_done endsIff).congr (fun path choices => ⟨?_, ?_⟩)
      · rintro ⟨leaves, rfl⟩
        exact .done leaves
      · rintro ⟨leaves⟩
        exact ⟨leaves, rfl⟩
  | case2 text =>
      have rest : Selects (search agrees ends []) _ := selects_done endsIff
      have selects := rest.searchText (dropFinalSlash text.toList)
      rw [List.append_nil] at selects
      exact selects.congr (fun path choices => decomposes_lastLiteral_iff.symm)
  | case3 part parts notLast inductionHypothesis =>
      rw [tokensOf.eq_3 part parts notLast]
      cases part with
      | literal text =>
          have more : parts ≠ [] := fun none => notLast text rfl none
          exact (Selects.searchText inductionHypothesis text.toList).congr
            (fun path choices => (decomposes_literal_iff more).symm)
      | param key separator => exact selects_param inductionHypothesis key separator

/-! ## The captures of a pattern -/

/-- A choice for each parameter under which a template accounts for a path. -/
def Reads (t : Template) (extent : Extent) (caseSensitive : Bool) (path : String) :
    Captures → Prop :=
  Decomposes (CaseFold.agree caseSensitive) extent.Leaves t.parts path.toList

/-- The choices that come before all others. -/
def Prefers (t : Template) (extent : Extent) (caseSensitive : Bool) (path : String)
    (choices : Captures) : Prop :=
  t.Reads extent caseSensitive path choices ∧
    ∀ other, t.Reads extent caseSensitive path other → other = choices ∨ Precedes choices other

/-- The captures that spell out a list of choices. -/
def spellOut (choices : Captures) : List (Option String) :=
  choices.map (·.map String.ofList)

theorem captures?_eq_search (t : Template) (extent : Extent) (caseSensitive : Bool)
    (path : String) :
    (Pattern.ofTemplate t extent caseSensitive).captures? path =
      (search (CaseFold.agree caseSensitive) extent.allows t.tokens path.toList).map spellOut := by
  rw [Pattern.captures?, Token.captures?_eq_search]
  rfl

theorem selects_reads (t : Template) (extent : Extent) (caseSensitive : Bool) :
    Selects (search (CaseFold.agree caseSensitive) extent.allows t.tokens)
      (Decomposes (CaseFold.agree caseSensitive) extent.Leaves t.parts) :=
  selects_decomposes extent.allows_iff t.parts

/-- The preferred choices are what the search finds. -/
theorem search_eq_some_iff (t : Template) (extent : Extent) (caseSensitive : Bool) (path : String)
    (choices : Captures) :
    search (CaseFold.agree caseSensitive) extent.allows t.tokens path.toList = some choices ↔
      t.Prefers extent caseSensitive path choices := by
  have selects := t.selects_reads extent caseSensitive
  constructor
  · intro found
    refine ⟨selects.sound found, fun other reads => ?_⟩
    rcases selects.best reads with ⟨first, isFirst, order⟩
    rw [found] at isFirst
    cases isFirst
    exact order
  · rintro ⟨reads, first⟩
    apply selects.eq_some reads
    intro other isOther precedes
    rcases first other isOther with rfl | before
    · exact Precedes.irrefl precedes
    · exact precedes.asymm before

/-- The preferred choices are what the pattern captures. -/
theorem captures?_eq_some_iff (t : Template) (extent : Extent) (caseSensitive : Bool)
    (path : String) (captures : List (Option String)) :
    (Pattern.ofTemplate t extent caseSensitive).captures? path = some captures ↔
      ∃ choices, captures = spellOut choices ∧ t.Prefers extent caseSensitive path choices := by
  simp only [captures?_eq_search, Option.map_eq_some_iff, search_eq_some_iff]
  constructor
  · rintro ⟨choices, prefers, rfl⟩
    exact ⟨choices, rfl, prefers⟩
  · rintro ⟨choices, rfl, prefers⟩
    exact ⟨choices, prefers, rfl⟩

theorem captures?_eq_none_iff (t : Template) (extent : Extent) (caseSensitive : Bool)
    (path : String) :
    (Pattern.ofTemplate t extent caseSensitive).captures? path = none ↔
      ¬ ∃ choices, t.Reads extent caseSensitive path choices := by
  rw [captures?_eq_search, Option.map_eq_none_iff, not_exists]
  exact (t.selects_reads extent caseSensitive).eq_none_iff path.toList

/-- Paths with the same decompositions have the same captures. -/
theorem captures?_congr {t : Template} {extent : Extent} {caseSensitive : Bool}
    {path other : String} (same : ∀ choices, t.Reads extent caseSensitive path choices ↔
      t.Reads extent caseSensitive other choices) :
    (Pattern.ofTemplate t extent caseSensitive).captures? path =
      (Pattern.ofTemplate t extent caseSensitive).captures? other := by
  apply Option.ext
  intro captures
  rw [captures?_eq_some_iff, captures?_eq_some_iff]
  simp only [Prefers, same]

theorem exists_prefers {t : Template} {extent : Extent} {caseSensitive : Bool} {path : String}
    {choices : Captures} (reads : t.Reads extent caseSensitive path choices) :
    ∃ preferred, t.Prefers extent caseSensitive path preferred := by
  cases captured : (Pattern.ofTemplate t extent caseSensitive).captures? path with
  | none => exact absurd ⟨choices, reads⟩ ((t.captures?_eq_none_iff _ _ _).mp captured)
  | some captures =>
      rcases (t.captures?_eq_some_iff _ _ _ _).mp captured with ⟨preferred, -, prefers⟩
      exact ⟨preferred, prefers⟩

/-- A pattern captures one entry for each parameter. -/
theorem length_of_captures? {t : Template} {extent : Extent} {caseSensitive : Bool}
    {path : String} {captures : List (Option String)}
    (captured : (Pattern.ofTemplate t extent caseSensitive).captures? path = some captures) :
    captures.length = t.keys.length := by
  rcases (t.captures?_eq_some_iff _ _ _ _).mp captured with ⟨choices, rfl, prefers⟩
  rw [spellOut, List.length_map]
  exact prefers.1.length_eq

/-- The matcher finds nothing exactly when there is nothing to find, and otherwise it returns one
entry for each parameter, in declaration order: the choices of the decomposition that comes before
all others. -/
theorem captures?_decomposes (t : Template) (extent : Extent) (caseSensitive : Bool)
    (path : String) :
    ((Pattern.ofTemplate t extent caseSensitive).captures? path = none ↔
      ¬ ∃ choices, t.Reads extent caseSensitive path choices) ∧
    ∀ captures, (Pattern.ofTemplate t extent caseSensitive).captures? path = some captures ↔
      ∃ choices, captures = spellOut choices ∧ captures.length = t.keys.length ∧
        t.Prefers extent caseSensitive path choices := by
  refine ⟨t.captures?_eq_none_iff extent caseSensitive path, fun captures => ?_⟩
  rw [captures?_eq_some_iff]
  refine exists_congr (fun choices => and_congr_right ?_)
  rintro rfl
  refine ⟨fun prefers => ⟨?_, prefers⟩, fun both => both.2⟩
  rw [spellOut, List.length_map]
  exact prefers.1.length_eq

end Template
end PathTemplate
