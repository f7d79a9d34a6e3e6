import PathTemplate.Proofs.Matching.Decomposition

namespace PathTemplate

open Token

/-!
# The whole path and its leading segments

The two extents of a pattern differ in the rest that may be left of a path, and in nothing else.  A
decomposition into leading segments is therefore a decomposition of a shorter path in full, with a
rest behind it that begins with a slash.  So the extents accept the same paths up to such a cut,
although the search for leading segments may stop at an earlier place than the search for the whole
path.  Nothing is said here about what is captured: the same path may be read in two ways.
-/

namespace Extent

/-- What stands behind a cut is part of what is left. -/
theorem leaves_leading_append {rest more : List Char} (leaves : leading.Leaves rest)
    (cut : Boundary '/' more) : leading.Leaves (rest ++ more) := by
  rcases leaves with rfl | ⟨tail, rfl⟩
  · exact cut
  · exact .cons _

end Extent

namespace Template

variable {agrees : Char → Char → Bool} {Leaves Others : List Char → Prop}

/-! ## Moving the end of a decomposition -/

/-- The choices stay the same if more of the path is left. -/
theorem Decomposes.append {more : List Char}
    (carries : ∀ rest, Leaves rest → Others (rest ++ more)) {parts : List Part} {path : List Char}
    {choices : Captures} (decomposes : Decomposes agrees Leaves parts path choices) :
    Decomposes agrees Others parts (path ++ more) choices := by
  induction decomposes with
  | done leaves => exact .done (carries _ leaves)
  | literal moreParts spelled _ inductionHypothesis =>
      rw [List.append_assoc]
      exact .literal moreParts spelled inductionHypothesis
  | lastLiteral spelled leaves =>
      rw [List.append_assoc]
      exact .lastLiteral spelled (carries _ leaves)
  | taken spelled isValue _ inductionHypothesis =>
      rw [List.append_assoc, List.append_assoc]
      exact .taken spelled isValue inductionHypothesis
  | omitted optional _ inductionHypothesis => exact .omitted optional inductionHypothesis

theorem Decomposes.mono (weaker : ∀ rest, Leaves rest → Others rest) {parts : List Part}
    {path : List Char} {choices : Captures}
    (decomposes : Decomposes agrees Leaves parts path choices) :
    Decomposes agrees Others parts path choices := by
  have carries : ∀ rest, Leaves rest → Others (rest ++ []) := by
    intro rest leaves
    rw [List.append_nil]
    exact weaker rest leaves
  have appended := decomposes.append carries
  rwa [List.append_nil] at appended

/-- A decomposition ends somewhere, and up to there nothing is left. -/
theorem Decomposes.cut (nothing : Others []) {parts : List Part} {path : List Char}
    {choices : Captures} (decomposes : Decomposes agrees Leaves parts path choices) :
    ∃ before after, path = before ++ after ∧ Leaves after ∧
      Decomposes agrees Others parts before choices := by
  induction decomposes with
  | @done rest leaves => exact ⟨[], rest, rfl, leaves, .done nothing⟩
  | @literal text parts piece path choices more spelled _ inductionHypothesis =>
      rcases inductionHypothesis with ⟨before, after, rfl, leaves, later⟩
      exact ⟨piece ++ before, after, (List.append_assoc _ _ _).symm, leaves,
        .literal more spelled later⟩
  | @lastLiteral text piece rest spelled leaves =>
      have decomposed := Decomposes.lastLiteral spelled nothing
      rw [List.append_nil] at decomposed
      exact ⟨piece, rest, rfl, leaves, decomposed⟩
  | @taken key separator parts lead value path choices spelled isValue _ inductionHypothesis =>
      rcases inductionHypothesis with ⟨before, after, rfl, leaves, later⟩
      refine ⟨lead ++ (value ++ before), after, ?_, leaves, .taken spelled isValue later⟩
      rw [List.append_assoc, List.append_assoc]
  | omitted optional _ inductionHypothesis =>
      rcases inductionHypothesis with ⟨before, after, rfl, leaves, later⟩
      exact ⟨before, after, rfl, leaves, .omitted optional later⟩

/-- A decomposition accounts for a part of the path and leaves the rest of it. -/
theorem decomposes_iff_cut {parts : List Part} {path : List Char} {choices : Captures} :
    Decomposes agrees Leaves parts path choices ↔
      ∃ before after, path = before ++ after ∧ Leaves after ∧
        Decomposes agrees (· = []) parts before choices := by
  constructor
  · intro decomposes
    exact @Decomposes.cut agrees Leaves (· = []) rfl parts path choices decomposes
  · intro cut
    rcases cut with ⟨before, after, rfl, leaves, decomposes⟩
    apply decomposes.append
    intro rest nothing
    rw [nothing, List.nil_append]
    exact leaves

end Template

/-! ## Acceptance -/

namespace Pattern

/-- A pattern accepts the paths in which it captures something, be it an empty list. -/
def Accepts (p : Pattern) (path : String) : Prop :=
  (p.captures? path).isSome = true

instance (p : Pattern) (path : String) : Decidable (p.Accepts path) :=
  inferInstanceAs (Decidable (_ = true))

end Pattern

namespace Template

variable (t : Template) (extent : Extent) (caseSensitive : Bool) (path : String)

theorem accepts_iff_reads :
    (Pattern.ofTemplate t extent caseSensitive).Accepts path ↔
      ∃ choices, t.Reads extent caseSensitive path choices := by
  rw [Pattern.Accepts, Option.isSome_iff_ne_none, Ne, captures?_eq_none_iff, not_not]

/-- A path is accepted for its leading segments exactly if it can be cut, at its end or in front of
a slash, such that what stands before the cut is accepted as a whole.  So what is accepted as a
whole is accepted for its leading segments, and it still is with a slash and any text behind it. -/
theorem accepts_leading_iff_cut :
    ((Pattern.ofTemplate t .leading caseSensitive).Accepts path ↔
      ∃ before after, path = before ++ after ∧ Boundary '/' after.toList ∧
        (Pattern.ofTemplate t .whole caseSensitive).Accepts before) ∧
    ((Pattern.ofTemplate t .whole caseSensitive).Accepts path →
      (Pattern.ofTemplate t .leading caseSensitive).Accepts path) ∧
    ((Pattern.ofTemplate t .leading caseSensitive).Accepts path →
      ∀ more, (Pattern.ofTemplate t .leading caseSensitive).Accepts (path ++ "/" ++ more)) := by
  simp only [accepts_iff_reads]
  refine ⟨⟨?_, ?_⟩, ?_, ?_⟩
  · rintro ⟨choices, reads⟩
    have nothing : Extent.whole.Leaves [] := Or.inl rfl
    rcases reads.cut nothing with ⟨before, after, split, leaves, decomposes⟩
    refine ⟨String.ofList before, String.ofList after, ?_, ?_, choices, ?_⟩
    · rw [← String.ofList_append, ← split, String.ofList_toList]
    · rwa [String.toList_ofList]
    · rwa [Reads, String.toList_ofList]
  · rintro ⟨before, after, rfl, cut, choices, reads⟩
    refine ⟨choices, ?_⟩
    rw [Reads, String.toList_append]
    exact reads.append (fun rest leaves => Extent.leaves_leading_append leaves.boundary cut)
  · rintro ⟨choices, reads⟩
    exact ⟨choices, reads.mono (fun rest => Extent.Leaves.boundary)⟩
  · rintro ⟨choices, reads⟩ more
    refine ⟨choices, ?_⟩
    rw [Reads, String.append_assoc, String.toList_append, String.toList_append]
    exact reads.append (fun rest leaves => Extent.leaves_leading_append leaves (.cons _))

/-- An optional segment that the path may fill twice over, and a final slash that is stripped. -/
theorem accepts_leading_iff_cut_repeated :
    let t : Template := ⟨[.param ⟨"lang", true⟩ (some '/'), .literal "/docs/"]⟩
    let leading := Pattern.ofTemplate t .leading false
    let whole := Pattern.ofTemplate t .whole false
    ¬ whole.Accepts "/DOCS//" ∧ whole.Accepts "/docs/docs" ∧
      leading.Accepts "/docs/docs" ∧ leading.Accepts ("/docs/docs" ++ "/" ++ "?/x") ∧
      leading.Accepts "/DOCS//" ∧
      ∃ before after, "/DOCS//" = before ++ after ∧ Boundary '/' after.toList ∧
        whole.Accepts before := by
  intro t leading whole
  have rejected : ¬ whole.Accepts "/DOCS//" := by decide +kernel
  have wholeAccepted : whole.Accepts "/docs/docs" := by decide +kernel
  have leadingAccepted : leading.Accepts "/DOCS//" := by decide +kernel
  have filled := t.accepts_leading_iff_cut false "/docs/docs"
  have bare := t.accepts_leading_iff_cut false "/DOCS//"
  have accepted := filled.2.1 wholeAccepted
  exact ⟨rejected, wholeAccepted, accepted, filled.2.2 accepted "?/x", leadingAccepted,
    bare.1.mp leadingAccepted⟩

end Template
end PathTemplate
