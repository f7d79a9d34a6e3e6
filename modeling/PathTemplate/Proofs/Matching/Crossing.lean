import PathTemplate.Proofs.Matching.Extents
import PathTemplate.Proofs.Matching.Segments

namespace PathTemplate

open Token

/-!
# Captures of whole paths and of their leading segments

The search for leading segments may be content with less of a path than the search for the whole of
it, so the two need not capture the same.  On templates of whole segments they do, wherever the
optional parameters stand.

Suppose that a decomposition into leading segments took a value where the preferred decomposition of
the whole path omits one.  From there on it is ahead, by whole segments, and the other one makes up
for at most one segment at each part.  In the end it is not ahead any more, or it has come to the
end of the path itself.  So there is a part behind which both stand at the same place, and there the
first may go on as the second does.  This accounts for the whole path and takes the value.

If a parameter begins within a segment then the two may step over each other, and nothing of this
remains.
-/

namespace Extent

/-- Less is left behind less. -/
theorem leaves_whole_of_append {before rest : List Char}
    (leaves : whole.Leaves (before ++ rest)) : whole.Leaves rest := by
  rcases leaves with nothing | slash
  · have both := List.append_eq_nil_iff.mp nothing
    exact Or.inl both.2
  · rcases List.append_eq_singleton_iff.mp slash with ⟨-, same⟩ | ⟨-, same⟩
    · exact Or.inr same
    · exact Or.inl same

end Extent

namespace Template

variable {agrees : Char → Char → Bool}

/-! ## One decomposition behind another

Of two decompositions of one path, what the one has still to account for is what the other has, with
a lag in front.  The lag may grow, and it may shrink, but never below nothing. -/

/-- Both account for a text of the same length. -/
private theorem exists_lag_of_length_eq {lag piece rest other tail : List Char}
    (sameLength : piece.length = other.length) (same : lag ++ (piece ++ rest) = other ++ tail) :
    ∃ remaining, tail = remaining ++ rest := by
  rw [← List.append_assoc] at same
  rcases List.append_eq_append_iff.mp same with ⟨overlap, longer, shorter⟩ | ⟨remaining, -, split⟩
  · have lengths := congrArg List.length longer
    simp only [List.length_append] at lengths
    have nothing : overlap = [] := List.eq_nil_of_length_eq_zero (by omega)
    rw [nothing, List.nil_append] at shorter
    exact ⟨[], shorter.symm⟩
  · exact ⟨remaining, split⟩

/-- A value does not reach beyond the lag, since a segment begins behind it. -/
private theorem exists_lag_of_noSlash {lag path value tail : List Char} (noSlash : '/' ∉ value)
    (begins : Boundary '/' path) (same : lag ++ path = value ++ tail) :
    ∃ remaining, tail = remaining ++ path := by
  rcases List.append_eq_append_iff.mp same with ⟨overlap, longer, shorter⟩ | ⟨remaining, -, split⟩
  · cases overlap with
    | nil => exact ⟨[], shorter.symm⟩
    | cons c others =>
        have slash : c = '/' := by
          rcases begins with rfl | ⟨more, rfl⟩
          · cases shorter
          · exact (List.cons.inj shorter).1.symm
        have within : c ∈ value := by
          rw [longer]
          exact List.mem_append_right _ List.mem_cons_self
        rw [slash] at within
        exact absurd within noSlash
  · exact ⟨remaining, split⟩

/-- Where the lag is over already, there is nothing to be caught up with.  Otherwise a parameter
catches up with a segment at most. -/
private theorem Decomposes.lags {key : Key} {parts : List Part} {lag path : List Char}
    {choices : Captures} (begins : Boundary '/' path)
    (decomposes : Decomposes agrees Extent.whole.Leaves (.param key (some '/') :: parts)
      (lag ++ path) choices) :
    lag = [] ∨ ∃ remaining others,
      Decomposes agrees Extent.whole.Leaves parts (remaining ++ path) others := by
  rcases decomposes_param_iff.mp decomposes with
    ⟨lead, value, tail, others, split, -, spelled, isValue, later⟩ | ⟨-, others, -, later⟩
  · cases lag with
    | nil => exact Or.inl rfl
    | cons c lag =>
        have single : lead.length = 1 := spelled.length_eq.symm
        rcases List.length_eq_one_iff.mp single with ⟨slash, rfl⟩
        have behindSlash : lag ++ path = value ++ tail := (List.cons.inj split).2
        rcases exists_lag_of_noSlash isValue.noSlash begins behindSlash with ⟨remaining, rfl⟩
        exact Or.inr ⟨remaining, others, later⟩
  · exact Or.inr ⟨lag, others, later⟩

/-- A decomposition of leading segments that is ahead of one of the whole path is caught up with, so
what it has still to account for can be decomposed as a whole. -/
theorem Decomposes.exists_of_ahead (onlySlash : ∀ c, agrees '/' c = true → c = '/')
    {parts : List Part} (segments : ∀ part ∈ parts, part.StartsSegment) {lag path : List Char}
    {first second : Captures} (ahead : Decomposes agrees Extent.leading.Leaves parts path first)
    (behind : Decomposes agrees Extent.whole.Leaves parts (lag ++ path) second) :
    ∃ choices, Decomposes agrees Extent.whole.Leaves parts path choices := by
  induction parts generalizing lag path first second with
  | nil =>
      cases behind with
      | done leaves => exact ⟨[], .done (Extent.leaves_whole_of_append leaves)⟩
  | cons part parts inductionHypothesis =>
      have segmentsLater := List.forall_mem_of_forall_mem_cons segments
      have starts := segments part List.mem_cons_self
      have begins := ahead.boundary onlySlash (fun rest => Extent.Leaves.boundary) segments
      cases part with
      | literal text =>
          rcases decomposes_standing_iff.mp ahead with ⟨piece, rest, rfl, spelled, aheadLater⟩
          rcases decomposes_standing_iff.mp behind with
            ⟨other, tail, split, otherSpelled, behindLater⟩
          have sameLength : piece.length = other.length :=
            spelled.length_eq.symm.trans otherSpelled.length_eq
          rcases exists_lag_of_length_eq sameLength split with ⟨remaining, rfl⟩
          rcases inductionHypothesis segmentsLater aheadLater behindLater with
            ⟨choices, decomposes⟩
          exact ⟨choices, decomposes_standing_iff.mpr ⟨piece, rest, rfl, spelled, decomposes⟩⟩
      | param key separator =>
          cases starts
          rcases behind.lags begins with rfl | ⟨remaining, others, behindLater⟩
          · -- Both stand at the same place, so from here the choices are those of the other one.
            exact ⟨second, behind⟩
          · rcases decomposes_param_iff.mp ahead with
              ⟨lead, value, rest, later, rfl, rfl, spelled, isValue, aheadLater⟩ |
              ⟨optional, later, rfl, aheadLater⟩
            · have regrouped : remaining ++ (lead ++ (value ++ rest)) =
                  (remaining ++ (lead ++ value)) ++ rest := by
                simp only [List.append_assoc]
              rw [regrouped] at behindLater
              rcases inductionHypothesis segmentsLater aheadLater behindLater with
                ⟨choices, decomposes⟩
              exact ⟨some value :: choices, .taken spelled isValue decomposes⟩
            · rcases inductionHypothesis segmentsLater aheadLater behindLater with
                ⟨choices, decomposes⟩
              exact ⟨none :: choices, .omitted optional decomposes⟩

/-! ## Preference -/

/-- There is a decomposition of the whole path with choices that precede the given ones. -/
private def Improves (agrees : Char → Char → Bool) (parts : List Part) (path : List Char)
    (choices : Captures) : Prop :=
  ∃ better, Decomposes agrees Extent.whole.Leaves parts path better ∧ Precedes better choices

private theorem Improves.later {parts : List Part} {path : List Char} {choices : Captures}
    (improves : Improves agrees parts path choices) {part : Part} {whole : List Char}
    (choice : Option (List Char))
    (step : ∀ {others}, Decomposes agrees Extent.whole.Leaves parts path others →
      Decomposes agrees Extent.whole.Leaves (part :: parts) whole (choice :: others)) :
    Improves agrees (part :: parts) whole (choice :: choices) := by
  rcases improves with ⟨better, decomposes, precedes⟩
  exact ⟨choice :: better, step decomposes, .later _ precedes⟩

/-- Two decompositions differ at a parameter, or they make the same choice there and differ behind
it.  In the first case the one that takes a value is ahead. -/
private theorem improves_param (onlySlash : ∀ c, agrees '/' c = true → c = '/') {key : Key}
    {parts : List Part} (segments : ∀ part ∈ parts, part.StartsSegment)
    (continues : ∀ {path first second}, Decomposes agrees Extent.leading.Leaves parts path first →
      Decomposes agrees Extent.whole.Leaves parts path second → Precedes first second →
      Improves agrees parts path second)
    {path : List Char} {first second : Captures}
    (leading : Decomposes agrees Extent.leading.Leaves (.param key (some '/') :: parts) path first)
    (whole : Decomposes agrees Extent.whole.Leaves (.param key (some '/') :: parts) path second)
    (precedes : Precedes first second) :
    Improves agrees (.param key (some '/') :: parts) path second := by
  rcases decomposes_param_iff.mp leading with
    ⟨lead, value, rest, later, rfl, rfl, spelled, isValue, leadingLater⟩ |
    ⟨optional, later, rfl, leadingLater⟩
  · rcases decomposes_param_iff.mp whole with
      ⟨otherLead, other, tail, others, split, rfl, otherSpelled, isOther, wholeLater⟩ |
      ⟨optional, others, rfl, wholeLater⟩
    · have sameLength : lead.length = otherLead.length :=
        spelled.length_eq.symm.trans otherSpelled.length_eq
      have behindLead := (List.append_inj split sameLength).2
      have begins : Boundary '/' rest :=
        leadingLater.boundary onlySlash (fun _ => Extent.Leaves.boundary) segments
      have otherBegins : Boundary '/' tail :=
        wholeLater.boundary onlySlash (fun _ => Extent.Leaves.boundary) segments
      have aligned : value = other ∧ rest = tail :=
        Boundary.append_inj isValue.noSlash isOther.noSlash begins otherBegins behindLead
      rw [← aligned.2] at wholeLater
      rw [← aligned.1] at precedes ⊢
      cases precedes with
      | shorter less => exact absurd less (Nat.lt_irrefl _)
      | later _ precedesLater =>
          have improves := continues leadingLater wholeLater precedesLater
          exact improves.later (some value) (fun decomposes => .taken spelled isValue decomposes)
    · -- The segment that only one of them takes is the lag of the other.
      rw [← List.append_assoc] at wholeLater
      rcases leadingLater.exists_of_ahead onlySlash segments wholeLater with ⟨choices, decomposes⟩
      exact ⟨some value :: choices, .taken spelled isValue decomposes, .taken _ _ _⟩
  · rcases decomposes_param_iff.mp whole with
      ⟨_, _, _, _, _, rfl, _, _, _⟩ | ⟨_, others, rfl, wholeLater⟩
    · cases precedes
    · cases precedes with
      | later _ precedesLater =>
          have improves := continues leadingLater wholeLater precedesLater
          exact improves.later none (fun decomposes => .omitted optional decomposes)

/-- What precedes a decomposition of the whole path shows that this can be improved upon, even if it
is a decomposition of leading segments only. -/
private theorem improves_of_precedes (onlySlash : ∀ c, agrees '/' c = true → c = '/')
    {parts : List Part} (segments : ∀ part ∈ parts, part.StartsSegment) {path : List Char}
    {first second : Captures} (leading : Decomposes agrees Extent.leading.Leaves parts path first)
    (whole : Decomposes agrees Extent.whole.Leaves parts path second)
    (precedes : Precedes first second) : Improves agrees parts path second := by
  induction parts generalizing path first second with
  | nil =>
      cases leading
      cases precedes
  | cons part parts inductionHypothesis =>
      have segmentsLater := List.forall_mem_of_forall_mem_cons segments
      have starts := segments part List.mem_cons_self
      cases part with
      | literal text =>
          rcases decomposes_standing_iff.mp leading with ⟨piece, rest, rfl, spelled, leadingLater⟩
          rcases decomposes_standing_iff.mp whole with
            ⟨other, tail, split, otherSpelled, wholeLater⟩
          have sameLength : piece.length = other.length :=
            spelled.length_eq.symm.trans otherSpelled.length_eq
          have aligned := List.append_inj split sameLength
          rw [← aligned.2] at wholeLater
          rcases inductionHypothesis segmentsLater leadingLater wholeLater precedes with
            ⟨better, decomposes, before⟩
          have standing := decomposes_standing_iff.mpr ⟨piece, rest, rfl, spelled, decomposes⟩
          exact ⟨better, standing, before⟩
      | param key separator =>
          cases starts
          exact improves_param onlySlash segmentsLater (inductionHypothesis segmentsLater) leading
            whole precedes

/-- What a pattern of whole segments captures in the whole of a path, it also captures in the
leading segments of that path. -/
theorem captures?_leading_of_whole {t : Template}
    (segments : ∀ part ∈ t.parts, part.StartsSegment) {caseSensitive : Bool} {path : String}
    {captures : List (Option String)}
    (captured : (Pattern.ofTemplate t .whole caseSensitive).captures? path = some captures) :
    (Pattern.ofTemplate t .leading caseSensitive).captures? path = some captures := by
  have onlySlash : ∀ c, CaseFold.agree caseSensitive '/' c = true → c = '/' :=
    fun c => (CaseFold.agree_slash caseSensitive c).mp
  rcases (t.captures?_eq_some_iff _ _ _ _).mp captured with ⟨choices, rfl, reads, first⟩
  have readsLeading : t.Reads .leading caseSensitive path choices :=
    reads.mono (fun rest => Extent.Leaves.boundary)
  rcases exists_prefers readsLeading with ⟨preferred, prefers⟩
  rcases prefers.2 choices readsLeading with rfl | precedes
  · exact (t.captures?_eq_some_iff _ _ _ _).mpr ⟨choices, rfl, prefers⟩
  · rcases improves_of_precedes onlySlash segments prefers.1 reads precedes with
      ⟨other, readsOther, before⟩
    rcases first other readsOther with rfl | after
    · exact absurd before Precedes.irrefl
    · exact absurd before after.asymm

/-- Two optional segments, of which the path fills neither, in front of a literal and of a required
one. -/
theorem captures?_leading_of_whole_docs :
    let t : Template := ⟨[.param ⟨"lang", true⟩ (some '/'), .literal "/docs",
      .param ⟨"page", true⟩ (some '/'), .param ⟨"section", false⟩ (some '/')]⟩
    read "/:lang?/docs/:page?/:section" = .ok t ∧ (∀ part ∈ t.parts, part.StartsSegment) ∧
      (Pattern.ofTemplate t .whole false).captures? "/DOCS/a.b/" =
        some [none, none, some "a.b"] ∧
      (Pattern.ofTemplate t .leading false).captures? "/DOCS/a.b/" =
        some [none, none, some "a.b"] := by
  intro t
  have isRead : read "/:lang?/docs/:page?/:section" = .ok t := by decide +kernel
  have segments : ∀ part ∈ t.parts, part.StartsSegment := by decide +kernel
  have captured : (Pattern.ofTemplate t .whole false).captures? "/DOCS/a.b/" =
      some [none, none, some "a.b"] := by decide +kernel
  exact ⟨isRead, segments, captured, captures?_leading_of_whole segments captured⟩

end Template
end PathTemplate
