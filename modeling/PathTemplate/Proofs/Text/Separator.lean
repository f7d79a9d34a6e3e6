namespace PathTemplate

/-!
# Cutting a text at its first separator

Query pairs, locations and the segments of a path are all cut by the same rule: up to the first
separator, or to the end if there is none.  The laws here say that a stretch without a separator is
found again in front of such a boundary, and that a text starts with only one such stretch.
-/

/-- A stretch of characters of one kind is over in front of a text that does not begin with one of
them. -/
theorem while_append {p : Char → Bool} (front : List Char) {rest : List Char}
    (ends : ∀ c ∈ rest.head?, p c = false) :
    (front ++ rest).takeWhile p = front.takeWhile p ∧
      (front ++ rest).dropWhile p = front.dropWhile p ++ rest := by
  induction front with
  | nil =>
      cases rest with
      | nil => exact ⟨rfl, rfl⟩
      | cons c more =>
          have stops := ne_true_of_eq_false (ends c rfl)
          exact ⟨List.takeWhile_cons_of_neg stops, List.dropWhile_cons_of_neg stops⟩
  | cons c front inductionHypothesis =>
      by_cases goesOn : p c = true
      · simp only [List.cons_append, List.takeWhile_cons_of_pos goesOn,
          List.dropWhile_cons_of_pos goesOn, inductionHypothesis, and_self]
      · simp only [List.cons_append, List.takeWhile_cons_of_neg goesOn,
          List.dropWhile_cons_of_neg goesOn, and_self]

/-- Such a stretch is found again. -/
theorem span_append {p : Char → Bool} {stretch rest : List Char}
    (within : ∀ c ∈ stretch, p c = true) (ends : ∀ c ∈ rest.head?, p c = false) :
    (stretch ++ rest).takeWhile p = stretch ∧ (stretch ++ rest).dropWhile p = rest := by
  have ended : rest.takeWhile p = [] ∧ rest.dropWhile p = rest := while_append [] ends
  rw [List.takeWhile_append_of_pos within, List.dropWhile_append_of_pos within, ended.1, ended.2,
    List.append_nil]
  exact ⟨rfl, rfl⟩

/-- Where a stretch without separators may end: at a separator, or at the end of the text. -/
def Boundary (sep : Char) (rest : List Char) : Prop :=
  rest = [] ∨ ∃ more, rest = sep :: more

namespace Boundary

variable {sep : Char}

theorem nil : Boundary sep [] :=
  Or.inl rfl

theorem cons (more : List Char) : Boundary sep (sep :: more) :=
  Or.inr ⟨more, rfl⟩

private theorem all_ne {stretch : List Char} (absent : sep ∉ stretch) :
    ∀ c ∈ stretch, decide (c ≠ sep) = true := by
  intro c member
  rw [decide_eq_true_eq]
  rintro rfl
  exact absent member

private theorem head_eq {rest : List Char} (ends : Boundary sep rest) :
    ∀ c ∈ rest.head?, decide (c ≠ sep) = false := by
  intro c first
  rcases ends with rfl | ⟨more, rfl⟩
  · cases first
  · cases first
    simp

theorem takeWhile_append {stretch rest : List Char} (absent : sep ∉ stretch)
    (ends : Boundary sep rest) : (stretch ++ rest).takeWhile (· ≠ sep) = stretch :=
  (span_append (all_ne absent) (head_eq ends)).1

theorem dropWhile_append {stretch rest : List Char} (absent : sep ∉ stretch)
    (ends : Boundary sep rest) : (stretch ++ rest).dropWhile (· ≠ sep) = rest :=
  (span_append (all_ne absent) (head_eq ends)).2

/-- Every text begins with a stretch up to its first boundary. -/
theorem exists_append (sep : Char) (cs : List Char) :
    ∃ stretch rest, cs = stretch ++ rest ∧ sep ∉ stretch ∧ Boundary sep rest := by
  induction cs with
  | nil => exact ⟨[], [], rfl, List.not_mem_nil, nil⟩
  | cons c cs inductionHypothesis =>
      by_cases separator : c = sep
      · subst separator
        exact ⟨[], c :: cs, rfl, List.not_mem_nil, cons cs⟩
      · rcases inductionHypothesis with ⟨stretch, rest, rfl, absent, ends⟩
        have further : sep ∉ c :: stretch := by
          rw [List.mem_cons, not_or]
          exact ⟨Ne.symm separator, absent⟩
        exact ⟨c :: stretch, rest, rfl, further, ends⟩

/-- A text has one first boundary. -/
theorem append_inj {first second after other : List Char} (firstPlain : sep ∉ first)
    (secondPlain : sep ∉ second) (firstEnds : Boundary sep after) (secondEnds : Boundary sep other)
    (same : first ++ after = second ++ other) : first = second ∧ after = other := by
  have equal : first = second := by
    rw [← takeWhile_append firstPlain firstEnds, same, takeWhile_append secondPlain secondEnds]
  subst equal
  exact ⟨rfl, List.append_cancel_left same⟩

end Boundary
end PathTemplate
