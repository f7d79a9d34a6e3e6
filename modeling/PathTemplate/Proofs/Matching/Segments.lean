import PathTemplate.Proofs.Template.Filling
import PathTemplate.Proofs.Text.CaseFold

namespace PathTemplate

open Token

/-!
# Templates made of whole segments

Where every parameter owns a slash and every literal begins with one, each part of a template begins
a segment, and a value can only be all of the segment it stands in: it contains no slash, and what
follows it begins with one.  Two decompositions of one path therefore agree on the values they both
take, and they can only part where one of them omits a parameter that the other gives a value.

A path that was filled without gaps leaves nothing to be taken where it omits a parameter, so the
decomposition it was built from comes before all others.
-/

namespace Part

/-- A part that begins a segment. -/
def StartsSegment : Part → Prop
  | literal text => text.toList.head? = some '/'
  | param _ separator => separator = some '/'

instance : DecidablePred StartsSegment
  | literal text => inferInstanceAs (Decidable (text.toList.head? = some '/'))
  | param _ separator => inferInstanceAs (Decidable (separator = some '/'))

end Part

namespace Params

variable {values : Params}

/-- A part that leaves no trace in a filled template. -/
def Omits (values : Params) : Part → Prop
  | .literal _ => False
  | .param key _ => key.optional = true ∧ values.nonempty? key.name = none

instance (values : Params) : DecidablePred values.Omits
  | .literal _ => isFalse id
  | .param key _ =>
      inferInstanceAs (Decidable (key.optional = true ∧ values.nonempty? key.name = none))

/-- Behind the first optional parameter without a value there is nothing but more of them. -/
def OmitsOnlyAtEnd (values : Params) (parts : List Part) : Prop :=
  ∀ before part after, parts = before ++ part :: after →
    values.Omits part → ∀ other ∈ after, values.Omits other

theorem omitsOnlyAtEnd_nil : values.OmitsOnlyAtEnd [] := by
  intro before part after impossible
  exact absurd impossible (by simp)

theorem omitsOnlyAtEnd_cons {part : Part} {parts : List Part} :
    values.OmitsOnlyAtEnd (part :: parts) ↔
      (values.Omits part → ∀ other ∈ parts, values.Omits other) ∧
        values.OmitsOnlyAtEnd parts := by
  constructor
  · intro atEnd
    refine ⟨atEnd [] part parts rfl, ?_⟩
    rintro before other after rfl
    exact atEnd (part :: before) other after rfl
  · rintro ⟨here, later⟩ before other after split
    cases before with
    | nil =>
        cases split
        exact here
    | cons first before =>
        cases split
        exact later before other after rfl

theorem omitsOnlyAtEnd_of_forall_not {parts : List Part}
    (kept : ∀ part ∈ parts, ¬ values.Omits part) : values.OmitsOnlyAtEnd parts := by
  rintro before part after rfl omits
  exact absurd omits (kept part (List.mem_append_right before List.mem_cons_self))

instance decidableOmitsOnlyAtEnd (values : Params) :
    (parts : List Part) → Decidable (values.OmitsOnlyAtEnd parts)
  | [] => isTrue omitsOnlyAtEnd_nil
  | _ :: parts =>
      have := decidableOmitsOnlyAtEnd values parts
      decidable_of_iff _ omitsOnlyAtEnd_cons.symm

end Params

namespace Template

variable {agrees : Char → Char → Bool} {Leaves : List Char → Prop}

private theorem leadsWith_of_startsSegment {parts : List Part}
    (segments : ∀ part ∈ parts, part.StartsSegment) : LeadsWith (· = '/') parts := by
  induction parts with
  | nil => trivial
  | cons part parts inductionHypothesis =>
      have starts := segments part List.mem_cons_self
      cases part with
      | literal text => exact ⟨'/', starts, rfl⟩
      | param key separator =>
          exact ⟨⟨'/', starts, rfl⟩, fun _ => inductionHypothesis
            (fun other member => segments other (List.mem_cons_of_mem _ member))⟩

/-- Parts that begin segments are found where a segment begins, or at the end of the path. -/
theorem Decomposes.boundary (onlySlash : ∀ c, agrees '/' c = true → c = '/')
    (leavesBoundary : ∀ rest, Leaves rest → Boundary '/' rest) {parts : List Part}
    (segments : ∀ part ∈ parts, part.StartsSegment) {path : List Char} {choices : Captures}
    (decomposes : Decomposes agrees Leaves parts path choices) : Boundary '/' path := by
  have closed : ∀ c d, agrees c d = true → c = '/' → d = '/' := by
    rintro c d fit rfl
    exact onlySlash d fit
  have leavesOpen : ∀ rest, Leaves rest → OpensWith (· = '/') rest := by
    intro rest leaves
    apply opensWith_of_boundary ?_ (leavesBoundary rest leaves)
    rfl
  rcases decomposes.opensWith closed leavesOpen (leadsWith_of_startsSegment segments) with
    rfl | ⟨c, rest, rfl, rfl⟩
  · exact .nil
  · exact .cons rest

variable {values : Params}

/-! ## Omissions -/

private theorem fillParts_of_omits {parts : List Part} (omits : ∀ part ∈ parts, values.Omits part) :
    fillParts values parts = .ok [] := by
  induction parts with
  | nil => rfl
  | cons part parts inductionHypothesis =>
      have later := inductionHypothesis
        (fun other member => omits other (List.mem_cons_of_mem _ member))
      cases part with
      | literal text => exact absurd (omits _ List.mem_cons_self) id
      | param key separator =>
          rcases omits _ List.mem_cons_self with ⟨optional, absent⟩
          have first : (Part.param key separator).fill values = .ok [] :=
            fill_param_eq_ok.mpr (Or.inr ⟨absent, optional, rfl⟩)
          exact fillParts_cons_eq_ok.mpr ⟨[], [], first, later, rfl⟩

/-- A path too short for a segment decomposes into omissions only. -/
private theorem Decomposes.eq_written_of_omits {parts : List Part} {path : List Char}
    {choices : Captures} (decomposes : Decomposes agrees Leaves parts path choices)
    (segments : ∀ part ∈ parts, part.StartsSegment) (omits : ∀ part ∈ parts, values.Omits part)
    (short : path.length ≤ 1) : choices = values.written (parts.filterMap Part.key?) := by
  induction decomposes with
  | done _ => rfl
  | literal _ _ _ _ => exact absurd (omits _ List.mem_cons_self) id
  | lastLiteral _ _ => exact absurd (omits _ List.mem_cons_self) id
  | taken spelled isValue _ _ =>
      have slash : _ = some '/' := segments _ List.mem_cons_self
      rw [slash] at spelled
      have oneSlash := spelled.length_eq
      have someValue := List.length_pos_iff.mpr isValue.nonempty
      simp only [Option.toList_some, List.length_singleton, List.length_append] at oneSlash short
      omega
  | omitted _ _ inductionHypothesis =>
      rcases omits _ List.mem_cons_self with ⟨-, absent⟩
      rw [Params.written_cons_none absent, inductionHypothesis
        (fun part member => segments part (List.mem_cons_of_mem _ member))
        (fun part member => omits part (List.mem_cons_of_mem _ member)) short]

theorem boundary_fillParts {parts : List Part}
    (segments : ∀ part ∈ parts, part.StartsSegment) {path rest : List Char}
    (filled : fillParts values parts = .ok path) (restBoundary : Boundary '/' rest) :
    Boundary '/' (path ++ rest) := by
  induction parts generalizing path with
  | nil =>
      cases filled
      exact restBoundary
  | cons part parts inductionHypothesis =>
      rcases fillParts_cons_eq_ok.mp filled with ⟨here, after, first, later, rfl⟩
      have starts := segments part List.mem_cons_self
      cases part with
      | literal text =>
          cases first
          rcases List.head?_eq_some_iff.mp starts with ⟨more, characters⟩
          rw [characters]
          exact .cons _
      | param key separator =>
          cases starts
          rcases fill_param_eq_ok.mp first with ⟨value, _, rfl⟩ | ⟨_, _, rfl⟩
          · exact .cons _
          · exact inductionHypothesis
              (fun other member => segments other (List.mem_cons_of_mem _ member)) later

/-! ## One part of a filled path -/

/-- A literal takes what was filled in for it. -/
private theorem Decomposes.of_literal {text : String} {parts : List Part} (more : parts ≠ [])
    {behind : List Char} {choices : Captures}
    (decomposes :
      Decomposes agrees Leaves (.literal text :: parts) (text.toList ++ behind) choices) :
    Decomposes agrees Leaves parts behind choices := by
  rcases (decomposes_literal_iff more).mp decomposes with ⟨piece, tail, split, spelled, later⟩
  have aligned := List.append_inj split spelled.length_eq
  rwa [← aligned.2] at later

/-- A parameter takes all of its segment, or else it is omitted. -/
private theorem Decomposes.of_segment (onlySlash : ∀ c, agrees '/' c = true → c = '/')
    (leavesBoundary : ∀ rest, Leaves rest → Boundary '/' rest) {key : Key} {parts : List Part}
    (segments : ∀ part ∈ parts, part.StartsSegment) {value behind : List Char}
    (noSlash : '/' ∉ value) (ends : Boundary '/' behind) {choices : Captures}
    (decomposes : Decomposes agrees Leaves (.param key (some '/') :: parts)
      ('/' :: value ++ behind) choices) :
    (∃ others, choices = some value :: others ∧ Decomposes agrees Leaves parts behind others) ∨
      ∃ others, choices = none :: others := by
  rcases decomposes_param_iff.mp decomposes with
    ⟨lead, taken, tail, others, split, rfl, spelled, isValue, later⟩ | ⟨_, others, rfl, _⟩
  · have sameTail : value ++ behind = taken ++ tail := by
      change ['/'] ++ (value ++ behind) = lead ++ (taken ++ tail) at split
      exact (List.append_inj split spelled.length_eq).2
    -- Neither value goes beyond the segment, so both end where it ends.
    have aligned := Boundary.append_inj noSlash isValue.noSlash ends
      (later.boundary onlySlash leavesBoundary segments) sameTail
    refine Or.inl ⟨others, ?_, ?_⟩
    · rw [aligned.1]
    · rwa [aligned.2]
  · exact Or.inr ⟨others, rfl⟩

/-- No decomposition of a path that was filled without gaps comes before the one it was built
from.  The rest behind the filled path may be long if nothing is omitted. -/
theorem Decomposes.eq_written_or_precedes (onlySlash : ∀ c, agrees '/' c = true → c = '/')
    (leavesBoundary : ∀ rest, Leaves rest → Boundary '/' rest) {parts : List Part}
    (segments : ∀ part ∈ parts, part.StartsSegment) {path rest : List Char}
    (filled : fillParts values parts = .ok path) (atEnd : values.OmitsOnlyAtEnd parts)
    (restBoundary : Boundary '/' rest)
    (short : (∃ part ∈ parts, values.Omits part) → rest.length ≤ 1) {choices : Captures}
    (decomposes : Decomposes agrees Leaves parts (path ++ rest) choices) :
    choices = values.written (parts.filterMap Part.key?) ∨
      Precedes (values.written (parts.filterMap Part.key?)) choices := by
  induction parts generalizing path choices with
  | nil =>
      cases decomposes
      exact Or.inl rfl
  | cons part parts inductionHypothesis =>
      rcases fillParts_cons_eq_ok.mp filled with ⟨here, after, first, later, rfl⟩
      have atEndParts := Params.omitsOnlyAtEnd_cons.mp atEnd
      have segmentsLater : ∀ other ∈ parts, other.StartsSegment :=
        fun other member => segments other (List.mem_cons_of_mem _ member)
      have shortLater : (∃ other ∈ parts, values.Omits other) → rest.length ≤ 1 :=
        fun ⟨other, member, omits⟩ => short ⟨other, List.mem_cons_of_mem _ member, omits⟩
      have continues {others : Captures}
          (decomposesLater : Decomposes agrees Leaves parts (after ++ rest) others) :=
        inductionHypothesis segmentsLater later atEndParts.2 shortLater decomposesLater
      have starts := segments part List.mem_cons_self
      rw [List.append_assoc] at decomposes
      cases part with
      | literal text =>
          cases first
          by_cases last : parts = []
          · subst last
            rcases decomposes_lastLiteral_iff.mp decomposes with ⟨_, _, _, _, _, rfl⟩
            exact Or.inl rfl
          · exact continues (decomposes.of_literal last)
      | param key separator =>
          cases starts
          rcases fill_param_eq_ok.mp first with ⟨value, found, rfl⟩ | ⟨absent, optional, rfl⟩
          · rw [Params.written_cons_some found]
            rcases decomposes.of_segment onlySlash leavesBoundary segmentsLater
                (Percent.not_mem_encode (by decide) (by decide))
                (boundary_fillParts segmentsLater later restBoundary) with
              ⟨others, rfl, decomposesLater⟩ | ⟨others, rfl⟩
            · rcases continues decomposesLater with rfl | precedes
              · exact Or.inl rfl
              · exact Or.inr (.later _ precedes)
            · exact Or.inr (.taken _ _ _)
          · have omitsHere : values.Omits (.param key (some '/')) := ⟨optional, absent⟩
            have omitsLater := atEndParts.1 omitsHere
            rw [fillParts_of_omits omitsLater] at later
            cases later
            exact Or.inl (decomposes.eq_written_of_omits segments
              (List.forall_mem_cons.mpr ⟨omitsHere, omitsLater⟩)
              (short ⟨_, List.mem_cons_self, omitsHere⟩))

end Template
end PathTemplate
