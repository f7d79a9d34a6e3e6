import PathTemplate.Proofs.Text.CaseFold
import PathTemplate.Proofs.Text.Percent

namespace PathTemplate
namespace Percent

/-!
# Text whose escapes are whole

A capture need not be a value that was encoded: it may be cut out of encoded text at any place.  It
can be decoded if no cut goes through the escapes of a character, and a cut next to a character that
no escape contains never does, whatever stands on either side of it.
-/

/-! ## Delimiters -/

/-- A character that no escape contains, whether written in capital or in small letters. -/
def isDelimiter (c : Char) : Bool :=
  c != '%' && (hexValue? c).isNone

private theorem isDelimiter_eq_false_iff (c : Char) :
    isDelimiter c = false ↔ c.toNat = 0x25 ∨ (0x30 ≤ c.toNat ∧ c.toNat ≤ 0x39) ∨
      (0x41 ≤ c.toNat ∧ c.toNat ≤ 0x46) ∨ (0x61 ≤ c.toNat ∧ c.toNat ≤ 0x66) := by
  have percent : c = '%' ↔ c.toNat = 0x25 := Char.toNat_inj.symm
  rw [isDelimiter, Bool.and_eq_false_iff, bne_eq_false_iff_eq, percent]
  refine or_congr_right ?_
  rw [hexValue?]
  split
  · simp_all
  · split
    · simp_all
    · split <;> simp_all

/-- Up to case, a delimiter agrees with delimiters only. -/
theorem isDelimiter_of_agree {caseSensitive : Bool} {c d : Char}
    (agrees : CaseFold.agree caseSensitive c d = true) (delimiter : isDelimiter c = true) :
    isDelimiter d = true := by
  cases caseSensitive with
  | true =>
      rw [CaseFold.agree, if_pos rfl, beq_iff_eq] at agrees
      rwa [← agrees]
  | false =>
      refine eq_true_of_ne_false (fun within => ?_)
      have range := (isDelimiter_eq_false_iff d).mp within
      have same := CaseFold.foldCode_eq_of_agree (by omega) (by omega) agrees
      have shifted := CaseFold.foldCode_ascii (n := d.toNat) (by omega)
      have low : CaseFold.foldCode c.toNat < 0x6B := by
        rw [same, shifted]
        split <;> omega
      rw [CaseFold.foldCode_ascii (CaseFold.ascii_of_foldCode_lt low), shifted] at same
      have alsoWithin : isDelimiter c = false := by
        rw [isDelimiter_eq_false_iff]
        split at same <;> split at same <;> omega
      rw [delimiter] at alsoWithin
      cases alsoWithin

theorem not_mem_encodeChar_of_isDelimiter {c d : Char} (escaped : isUnreserved c = false)
    (delimiter : isDelimiter d = true) : d ∉ encodeChar c := by
  intro member
  rw [encodeChar, escaped, if_neg Bool.false_ne_true, List.mem_flatMap] at member
  rcases member with ⟨b, _, within⟩
  rw [isDelimiter, Bool.and_eq_true, bne_iff_ne] at delimiter
  rcases mem_escapeByte within with percent | ⟨n, small, rfl⟩
  · exact delimiter.1 percent
  · rw [hexValue?_hexDigit small] at delimiter
    exact absurd delimiter.2 Bool.false_ne_true

/-! ## Intact text -/

/-- Text in which percent signs occur only in the complete escapes of characters. -/
inductive Intact : List Char → Prop where
  | nil : Intact []
  /-- A character that is not a percent sign stands for itself. -/
  | kept {c : Char} {rest : List Char} (different : c ≠ '%') (later : Intact rest) :
      Intact (c :: rest)
  /-- The escapes of all bytes of a character. -/
  | escaped {c : Char} {rest : List Char} (reserved : isUnreserved c = false)
      (later : Intact rest) : Intact (encodeChar c ++ rest)

namespace Intact

theorem append {first second : List Char} (one : Intact first) (other : Intact second) :
    Intact (first ++ second) := by
  induction one with
  | nil => exact other
  | kept different _ inductionHypothesis => exact .kept different inductionHypothesis
  | escaped reserved _ inductionHypothesis =>
      rw [List.append_assoc]
      exact .escaped reserved inductionHypothesis

theorem of_not_mem {text : List Char} (absent : '%' ∉ text) : Intact text := by
  induction text with
  | nil => exact .nil
  | cons c rest inductionHypothesis =>
      rw [List.mem_cons, not_or] at absent
      exact .kept (Ne.symm absent.1) (inductionHypothesis absent.2)

theorem encode (cs : List Char) : Intact (Percent.encode cs) := by
  induction cs with
  | nil => exact .nil
  | cons c rest inductionHypothesis =>
      rw [Percent.encode, List.flatMap_cons]
      by_cases kept : isUnreserved c = true
      · rw [encodeChar, if_pos kept]
        refine .kept ?_ inductionHypothesis
        rintro rfl
        exact absurd kept (by decide)
      · exact .escaped (eq_false_of_ne_true kept) inductionHypothesis

/-- Intact text can be decoded. -/
theorem decodes {text : List Char} (intact : Intact text) : ∃ cs, decode? text = some cs := by
  have bytes : ∃ cs, bytes? text = some (Utf8.encode cs) := by
    induction intact with
    | nil => exact ⟨[], rfl⟩
    | @kept c rest different _ inductionHypothesis =>
        rcases inductionHypothesis with ⟨cs, read⟩
        refine ⟨c :: cs, ?_⟩
        rw [bytes?_cons_of_ne different, read]
        rfl
    | @escaped c rest _ _ inductionHypothesis =>
        rcases inductionHypothesis with ⟨cs, read⟩
        refine ⟨c :: cs, ?_⟩
        rw [bytes?_encodeChar, read]
        rfl
  rcases bytes with ⟨cs, read⟩
  refine ⟨cs, ?_⟩
  rw [decode?, read, Option.bind_some, Utf8.decode?_encode]

/-- At a delimiter, intact text falls into intact pieces. -/
theorem cut {before after : List Char} {d : Char} (intact : Intact (before ++ d :: after))
    (delimiter : isDelimiter d = true) : Intact before ∧ Intact after := by
  generalize whole : before ++ d :: after = text at intact
  induction intact generalizing before with
  | nil => simp at whole
  | @kept c rest different later inductionHypothesis =>
      cases before with
      | nil =>
          cases whole
          exact ⟨.nil, later⟩
      | cons b before =>
          rw [List.cons_append, List.cons.injEq] at whole
          have pieces := inductionHypothesis whole.2
          exact ⟨.kept (whole.1 ▸ different) pieces.1, pieces.2⟩
  | @escaped c rest reserved later inductionHypothesis =>
      have outside := not_mem_encodeChar_of_isDelimiter reserved delimiter
      rcases List.append_eq_append_iff.mp whole with
        ⟨middle, escapes, remaining⟩ | ⟨middle, rfl, remaining⟩
      · cases middle with
        | nil =>
            rw [List.append_nil] at escapes
            rw [List.nil_append] at remaining
            have pieces := @inductionHypothesis [] remaining
            have whole : Intact (encodeChar c ++ []) := .escaped reserved .nil
            rw [List.append_nil, escapes] at whole
            exact ⟨whole, pieces.2⟩
        | cons e middle =>
            rw [List.cons_append, List.cons.injEq] at remaining
            rw [escapes, ← remaining.1] at outside
            exact absurd (List.mem_append_right _ List.mem_cons_self) outside
      · have pieces := inductionHypothesis remaining.symm
        exact ⟨.escaped reserved pieces.1, pieces.2⟩

end Intact
end Percent
end PathTemplate
