import PathTemplate.Proofs.Template.Filling
import PathTemplate.Proofs.Text.Intact

namespace PathTemplate

open Token
open Percent (Intact isDelimiter)

/-!
# Where the matcher may cut

A decomposition cuts a path at the ends of its values.  If a delimiter stands at each place where a
value can end or begin, then every value of every decomposition of an intact path is intact, and no
matter which decomposition is preferred, its values can be decoded.  Nothing is said about which
values these are.
-/

namespace Part

/-- A part whose text begins with a delimiter. -/
def StartsDelimited : Part → Prop
  | literal text => text.toList.head?.any isDelimiter = true
  | param _ separator => separator.any isDelimiter = true

/-- A part whose text ends with a delimiter; the value of a parameter may end with anything. -/
def EndsDelimited : Part → Prop
  | literal text => text.toList.getLast?.any isDelimiter = true
  | param _ _ => False

instance : DecidablePred StartsDelimited
  | literal text => inferInstanceAs (Decidable (text.toList.head?.any isDelimiter = true))
  | param _ separator => inferInstanceAs (Decidable (separator.any isDelimiter = true))

instance : DecidablePred EndsDelimited
  | literal text => inferInstanceAs (Decidable (text.toList.getLast?.any isDelimiter = true))
  | param _ _ => inferInstanceAs (Decidable False)

/-- Two parts are told apart by a delimiter. -/
def Delimits (first second : Part) : Prop :=
  second.StartsDelimited ∨ first.EndsDelimited

instance (first second : Part) : Decidable (first.Delimits second) :=
  inferInstanceAs (Decidable (second.StartsDelimited ∨ first.EndsDelimited))

end Part

namespace Template

/-- There is a delimiter between any two neighbouring parts. -/
def IsDelimited (t : Template) : Prop :=
  t.parts.IsChain Part.Delimits

instance (t : Template) : Decidable t.IsDelimited :=
  inferInstanceAs (Decidable (t.parts.IsChain Part.Delimits))

/-- No literal contains a percent sign. -/
def IsPercentFree (t : Template) : Prop :=
  ∀ text, Part.literal text ∈ t.parts → '%' ∉ text.toList

/-- Intact text can be cut where a delimiter follows. -/
theorem OpensWith.cut {path before : List Char} (opens : OpensWith (isDelimiter · = true) path)
    (intact : Intact (before ++ path)) : Intact before ∧ Intact path := by
  rcases opens with rfl | ⟨d, rest, rfl, delimiter⟩
  · rw [List.append_nil] at intact
    exact ⟨intact, .nil⟩
  · have pieces := intact.cut delimiter
    refine ⟨pieces.1, .kept ?_ pieces.2⟩
    rintro rfl
    exact absurd delimiter (by decide)

variable {caseSensitive : Bool}

private theorem cut_of_spells {text piece rest : List Char} (before : List Char)
    (spelled : Spells (CaseFold.agree caseSensitive) text piece)
    (ends : text.getLast?.any isDelimiter = true) (intact : Intact (before ++ (piece ++ rest))) :
    Intact rest := by
  induction spelled generalizing before with
  | nil => cases ends
  | @cons c d text piece agrees later inductionHypothesis =>
      cases text with
      | nil =>
          cases later
          exact (intact.cut (Percent.isDelimiter_of_agree agrees ends)).2
      | cons next text =>
          rw [List.getLast?_cons_cons] at ends
          rw [List.cons_append, List.append_cons] at intact
          exact inductionHypothesis _ ends intact

/-- A value ends with anything, so what follows a parameter has to begin with a delimiter. -/
private theorem startsDelimited_behind {key : Key} {separator : Option Char} {parts : List Part}
    (chain : (Part.param key separator :: parts).IsChain Part.Delimits) :
    ∀ part ∈ parts.head?, part.StartsDelimited := by
  cases parts with
  | nil =>
      intro part member
      cases member
  | cons second others =>
      rintro part ⟨⟩
      exact chain.rel.resolve_right id

private theorem leadsWith_of_isChain {parts : List Part} (chain : parts.IsChain Part.Delimits)
    (starts : ∀ part ∈ parts.head?, part.StartsDelimited) :
    LeadsWith (isDelimiter · = true) parts := by
  induction parts with
  | nil => trivial
  | cons part parts inductionHypothesis =>
      have startsHere := starts part rfl
      cases part with
      | literal text => exact (Option.any_eq_true _ _).mp startsHere
      | param key separator =>
          exact ⟨(Option.any_eq_true _ _).mp startsHere, fun _ =>
            inductionHypothesis chain.of_cons (startsDelimited_behind chain)⟩

variable {Leaves : List Char → Prop}

/-- What follows a value begins with a delimiter, if the parts that account for it do. -/
private theorem Decomposes.opensDelimited
    (leavesOpen : ∀ rest, Leaves rest → OpensWith (isDelimiter · = true) rest)
    {parts : List Part} {path : List Char} {choices : Captures}
    (decomposes : Decomposes (CaseFold.agree caseSensitive) Leaves parts path choices)
    (chain : parts.IsChain Part.Delimits) (starts : ∀ part ∈ parts.head?, part.StartsDelimited) :
    OpensWith (isDelimiter · = true) path := by
  have closed : ∀ c d, CaseFold.agree caseSensitive c d = true →
      isDelimiter c = true → isDelimiter d = true :=
    fun _ _ => Percent.isDelimiter_of_agree
  exact decomposes.opensWith closed leavesOpen (leadsWith_of_isChain chain starts)

/-- What is behind a literal is intact, because the literal ends with a delimiter or the next part
begins with one. -/
private theorem Decomposes.intact_behind_literal
    (leavesOpen : ∀ rest, Leaves rest → OpensWith (isDelimiter · = true) rest) {text : String}
    {parts : List Part} {piece path : List Char} {choices : Captures} (more : parts ≠ [])
    (spelled : Spells (CaseFold.agree caseSensitive) text.toList piece)
    (later : Decomposes (CaseFold.agree caseSensitive) Leaves parts path choices)
    (chain : (Part.literal text :: parts).IsChain Part.Delimits) (intact : Intact (piece ++ path)) :
    Intact path := by
  cases parts with
  | nil => exact absurd rfl more
  | cons second others =>
      rcases chain.rel with starts | ends
      · have startsHere : ∀ part ∈ (second :: others).head?, part.StartsDelimited := by
          rintro part ⟨⟩
          exact starts
        exact ((later.opensDelimited leavesOpen chain.of_cons startsHere).cut intact).2
      · exact cut_of_spells [] spelled ends intact

/-- What is behind a separator is intact, because separators are delimiters. -/
private theorem intact_behind_separator {separator : Option Char} {lead rest : List Char}
    (separates : ∀ c, separator = some c → isSeparator c = true)
    (spelled : Spells (CaseFold.agree caseSensitive) separator.toList lead)
    (intact : Intact (lead ++ rest)) : Intact rest := by
  cases separator with
  | none =>
      cases spelled
      exact intact
  | some c =>
      have delimiter : isDelimiter c = true := by
        rcases eq_slash_or_dot (separates c rfl) with rfl | rfl <;> decide
      exact cut_of_spells [] spelled delimiter intact

/-- The values of an intact path are intact. -/
theorem Decomposes.intact_of_mem
    (leavesOpen : ∀ rest, Leaves rest → OpensWith (isDelimiter · = true) rest)
    {parts : List Part} {path : List Char} {choices : Captures}
    (decomposes : Decomposes (CaseFold.agree caseSensitive) Leaves parts path choices)
    (chain : parts.IsChain Part.Delimits)
    (separates : ∀ key c, .param key (some c) ∈ parts → isSeparator c = true)
    (intact : Intact path) : ∀ value, some value ∈ choices → Intact value := by
  induction decomposes with
  | done _ => exact fun _ member => nomatch member
  | @literal text parts piece path choices more spelled later inductionHypothesis =>
      have behindLiteral := later.intact_behind_literal leavesOpen more spelled chain intact
      exact inductionHypothesis chain.of_cons
        (fun key c member => separates key c (List.mem_cons_of_mem _ member)) behindLiteral
  | lastLiteral _ _ => exact fun _ member => nomatch member
  | @taken key separator parts lead value path choices spelled isValue later inductionHypothesis =>
      have opens := later.opensDelimited leavesOpen chain.of_cons (startsDelimited_behind chain)
      have separatesHere : ∀ c, separator = some c → isSeparator c = true := by
        rintro c rfl
        exact separates key c List.mem_cons_self
      have behindSeparator := intact_behind_separator separatesHere spelled intact
      have pieces := opens.cut behindSeparator
      intro other member
      rcases List.mem_cons.mp member with same | further
      · cases same
        exact pieces.1
      · exact inductionHypothesis chain.of_cons
          (fun key c member => separates key c (List.mem_cons_of_mem _ member)) pieces.2 other further
  | omitted _ _ inductionHypothesis =>
      intro other member
      rcases List.mem_cons.mp member with impossible | further
      · cases impossible
      · exact inductionHypothesis chain.of_cons
          (fun key c member => separates key c (List.mem_cons_of_mem _ member)) intact other further

/-- The characters of a value are characters of the path. -/
theorem Decomposes.subset_of_mem {agrees : Char → Char → Bool} {parts : List Part}
    {path : List Char} {choices : Captures}
    (decomposes : Decomposes agrees Leaves parts path choices) :
    ∀ value, some value ∈ choices → value ⊆ path := by
  induction decomposes with
  | done _ => exact fun _ member => nomatch member
  | literal _ _ _ inductionHypothesis =>
      intro value member
      exact List.subset_append_of_subset_right _ (inductionHypothesis value member)
  | lastLiteral _ _ => exact fun _ member => nomatch member
  | taken _ _ _ inductionHypothesis =>
      intro value member
      refine List.subset_append_of_subset_right _ ?_
      rcases List.mem_cons.mp member with same | further
      · cases same
        exact List.subset_append_left _ _
      · exact List.subset_append_of_subset_right _ (inductionHypothesis value further)
  | omitted _ _ inductionHypothesis =>
      intro value member
      rcases List.mem_cons.mp member with impossible | further
      · cases impossible
      · exact inductionHypothesis value further

end Template
end PathTemplate
