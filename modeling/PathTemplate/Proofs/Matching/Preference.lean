import Mathlib.Data.List.Forall2
import PathTemplate.Pattern.Search

namespace PathTemplate
namespace Token

/-!
# What a search prefers

The search for a sequence of steps is a composition of searches, each of which hands the rest of the
path on to the next.  `Selects` states what such a search is to be: whatever it finds is admissible,
and nothing admissible comes before it.  Completeness is part of the second half, since a search
that finds nothing has nothing to come first.

The order is that of the choices made, the earliest parameter first: a value before its omission,
and a shorter value before a longer one.  Every lemma below takes a search that selects among the
choices for the rest of the path and extends it by one step.
-/

/-! ## The order of choices -/

/-- The first difference decides: a value precedes an omission, and a shorter value a longer one. -/
inductive Precedes : Captures → Captures → Prop where
  /-- The first takes a value where the second omits it. -/
  | taken (value : List Char) (first second : Captures) :
      Precedes (some value :: first) (none :: second)
  /-- The first takes a shorter value than the second. -/
  | shorter {value other : List Char} (less : value.length < other.length)
      (first second : Captures) : Precedes (some value :: first) (some other :: second)
  /-- They agree on a parameter and differ later. -/
  | later (choice : Option (List Char)) {first second : Captures}
      (precedes : Precedes first second) : Precedes (choice :: first) (choice :: second)

theorem Precedes.irrefl {choices : Captures} : ¬ Precedes choices choices := by
  intro same
  induction choices with
  | nil => cases same
  | cons choice rest inductionHypothesis =>
      cases same with
      | shorter less => exact Nat.lt_irrefl _ less
      | later _ precedes => exact inductionHypothesis precedes

theorem Precedes.asymm {first second : Captures} (precedes : Precedes first second) :
    ¬ Precedes second first := by
  induction precedes with
  | taken value first second =>
      intro reverse
      cases reverse
  | shorter less first second =>
      intro reverse
      cases reverse with
      | shorter more => exact Nat.lt_asymm less more
      | later _ _ => exact Nat.lt_irrefl _ less
  | later choice precedes inductionHypothesis =>
      intro reverse
      cases reverse with
      | shorter less => exact Nat.lt_irrefl _ less
      | later _ back => exact inductionHypothesis back

/-- A search returns an admissible choice that precedes all others, if any is admissible. -/
structure Selects (next : List Char → Option Captures)
    (Admissible : List Char → Captures → Prop) : Prop where
  sound : ∀ {path captures}, next path = some captures → Admissible path captures
  best : ∀ {path captures}, Admissible path captures →
    ∃ found, next path = some found ∧ (captures = found ∨ Precedes found captures)

theorem Selects.eq_none_iff {next : List Char → Option Captures}
    {Admissible : List Char → Captures → Prop} (selects : Selects next Admissible)
    (path : List Char) : next path = none ↔ ∀ captures, ¬ Admissible path captures := by
  constructor
  · intro nothing captures admissible
    rcases selects.best admissible with ⟨found, isFound, _⟩
    rw [nothing] at isFound
    cases isFound
  · intro none
    cases result : next path with
    | none => rfl
    | some captures => exact absurd (selects.sound result) (none captures)

/-- An admissible choice that no admissible choice precedes is the one found. -/
theorem Selects.eq_some {next : List Char → Option Captures}
    {Admissible : List Char → Captures → Prop} (selects : Selects next Admissible)
    {path : List Char} {captures : Captures} (admissible : Admissible path captures)
    (first : ∀ other, Admissible path other → ¬ Precedes other captures) :
    next path = some captures := by
  rcases selects.best admissible with ⟨found, isFound, same | precedes⟩
  · rw [isFound, same]
  · exact absurd precedes (first found (selects.sound isFound))

/-! ## Values and spellings -/

/-- What a parameter may take: some characters of one segment, and no dot where dots separate. -/
structure IsValue (excludesDot : Bool) (value : List Char) : Prop where
  nonempty : value ≠ []
  noSlash : '/' ∉ value
  noDot : excludesDot = true → '.' ∉ value

theorem isValue_iff {excludesDot : Bool} {value : List Char} :
    IsValue excludesDot value ↔ value ≠ [] ∧ ∀ c ∈ value, admits excludesDot c = true := by
  have admitted : (∀ c ∈ value, admits excludesDot c = true) ↔
      '/' ∉ value ∧ (excludesDot = true → '.' ∉ value) := by
    cases excludesDot <;> simp [admits, forall_and, imp_not_comm]
  rw [admitted]
  exact ⟨fun isValue => ⟨isValue.nonempty, isValue.noSlash, isValue.noDot⟩,
    fun parts => ⟨parts.1, parts.2.1, parts.2.2⟩⟩

/-- A value begins with an admitted character and is over there, or goes on as a value. -/
theorem isValue_cons {excludesDot : Bool} {c : Char} {rest : List Char} :
    IsValue excludesDot (c :: rest) ↔
      admits excludesDot c = true ∧ (rest = [] ∨ IsValue excludesDot rest) := by
  simp only [isValue_iff, List.forall_mem_cons, ne_eq, reduceCtorEq, not_false_eq_true, true_and]
  by_cases last : rest = []
  · simp [last]
  · simp [last]

/-- A stretch of the path that agrees with a text, character by character. -/
abbrev Spells (agrees : Char → Char → Bool) (text piece : List Char) : Prop :=
  List.Forall₂ (fun a b => agrees a b = true) text piece

/-! ## One step in front of a search -/

variable {agrees : Char → Char → Bool} {next : List Char → Option Captures}
  {Admissible : List Char → Captures → Prop}

theorem Selects.congr {Other : List Char → Captures → Prop} (selects : Selects next Admissible)
    (same : ∀ path captures, Admissible path captures ↔ Other path captures) :
    Selects next Other where
  sound found := (same _ _).mp (selects.sound found)
  best admissible := selects.best ((same _ _).mpr admissible)

/-- What may follow a character that is compared with one of the path. -/
theorem Selects.searchChar (selects : Selects next Admissible) (fits : Char → Bool) :
    Selects (searchChar fits next) (fun path captures =>
      ∃ c rest, path = c :: rest ∧ fits c = true ∧ Admissible rest captures) where
  sound := by
    intro path captures found
    cases path with
    | nil => cases found
    | cons c rest =>
        simp only [Token.searchChar] at found
        by_cases fit : fits c = true
        · rw [if_pos fit] at found
          exact ⟨c, rest, rfl, fit, selects.sound found⟩
        · rw [if_neg fit] at found
          cases found
  best := by
    rintro path captures ⟨c, rest, rfl, fit, admissible⟩
    rw [Token.searchChar, if_pos fit]
    exact selects.best admissible

/-- A text in front is spelled by the start of the path. -/
theorem Selects.searchText {ends : List Char → Bool} {tokens : List Token}
    (selects : Selects (search agrees ends tokens) Admissible) (text : List Char) :
    Selects (search agrees ends (text.map .char ++ tokens)) (fun path captures =>
      ∃ piece rest, path = piece ++ rest ∧ Spells agrees text piece ∧
        Admissible rest captures) := by
  induction text with
  | nil =>
      refine selects.congr (fun path captures => ⟨fun admissible => ?_, ?_⟩)
      · exact ⟨[], path, rfl, List.Forall₂.nil, admissible⟩
      · rintro ⟨piece, rest, rfl, spelled, admissible⟩
        cases spelled
        exact admissible
  | cons a text inductionHypothesis =>
      refine (inductionHypothesis.searchChar (agrees a)).congr (fun path captures => ⟨?_, ?_⟩)
      · rintro ⟨c, rest, rfl, fit, piece, more, rfl, spelled, admissible⟩
        exact ⟨c :: piece, more, rfl, List.Forall₂.cons fit spelled, admissible⟩
      · rintro ⟨piece, rest, rfl, spelled, admissible⟩
        cases spelled with
        | cons fit spelled => exact ⟨_, _, rfl, fit, _, rest, rfl, spelled, admissible⟩

private theorem Selects.searchValue_sound (selects : Selects next Admissible)
    {excludesDot : Bool} {path : List Char} {captures : Captures}
    (found : searchValue (admits excludesDot) next path = some captures) :
    ∃ value rest later, path = value ++ rest ∧ captures = some value :: later ∧
      IsValue excludesDot value ∧ Admissible rest later := by
  induction path generalizing captures with
  | nil => cases found
  | cons c rest inductionHypothesis =>
      rw [Token.searchValue] at found
      by_cases admitted : admits excludesDot c = true
      · rw [if_pos admitted] at found
        cases here : next rest with
        | some later =>
            rw [here] at found
            cases found
            exact ⟨[c], rest, later, rfl, rfl, isValue_cons.mpr ⟨admitted, Or.inl rfl⟩,
              selects.sound here⟩
        | none =>
            rw [here] at found
            rcases Option.map_eq_some_iff.mp found with ⟨longer, foundLater, rfl⟩
            rcases inductionHypothesis foundLater with
              ⟨value, more, later, rfl, rfl, isValue, admissible⟩
            exact ⟨c :: value, more, later, rfl, rfl,
              isValue_cons.mpr ⟨admitted, Or.inr isValue⟩, admissible⟩
      · rw [if_neg admitted] at found
        cases found

/-- Lengthening two values by the same character keeps their order. -/
private theorem precedes_extend {value other : List Char} {first second : Captures} (c : Char)
    (order : some other :: second = some value :: first ∨
      Precedes (some value :: first) (some other :: second)) :
    some (c :: other) :: second = some (c :: value) :: first ∨
      Precedes (some (c :: value) :: first) (some (c :: other) :: second) := by
  rcases order with same | precedes
  · cases same
    exact Or.inl rfl
  · cases precedes with
    | shorter less =>
        have less : (c :: value).length < (c :: other).length := Nat.succ_lt_succ less
        exact Or.inr (.shorter less _ _)
    | later _ precedes => exact Or.inr (.later _ precedes)

private theorem Selects.searchValue_best (selects : Selects next Admissible)
    {excludesDot : Bool} {value rest : List Char} {later : Captures}
    (isValue : IsValue excludesDot value) (admissible : Admissible rest later) :
    ∃ found, searchValue (admits excludesDot) next (value ++ rest) = some found ∧
      (some value :: later = found ∨ Precedes found (some value :: later)) := by
  induction value with
  | nil => exact absurd rfl isValue.nonempty
  | cons c tail inductionHypothesis =>
      rw [isValue_cons] at isValue
      rw [List.cons_append, Token.searchValue, if_pos isValue.1]
      rcases isValue.2 with rfl | isTail
      · rcases selects.best admissible with ⟨found, here, order⟩
        rw [List.nil_append, here]
        refine ⟨_, rfl, ?_⟩
        rcases order with rfl | precedes
        · exact Or.inl rfl
        · exact Or.inr (.later _ precedes)
      · cases here : next (tail ++ rest) with
        | some found =>
            have less : [c].length < (c :: tail).length :=
              Nat.succ_lt_succ (List.length_pos_iff.mpr isTail.nonempty)
            exact ⟨_, rfl, Or.inr (.shorter less _ _)⟩
        | none =>
            rcases inductionHypothesis isTail with ⟨found, isFound, order⟩
            rcases selects.searchValue_sound isFound with ⟨longer, more, others, -, rfl, -, -⟩
            rw [isFound]
            exact ⟨_, rfl, precedes_extend c order⟩

/-- A required value in front. -/
theorem Selects.searchValue (selects : Selects next Admissible) (excludesDot : Bool) :
    Selects (searchValue (admits excludesDot) next) (fun path captures =>
      ∃ value rest later, path = value ++ rest ∧ captures = some value :: later ∧
        IsValue excludesDot value ∧ Admissible rest later) where
  sound := selects.searchValue_sound
  best := by
    rintro path captures ⟨value, rest, later, rfl, rfl, isValue, admissible⟩
    exact selects.searchValue_best isValue admissible

/-- Trying one search before another, when what the first finds takes a value and the second omits
it. -/
private theorem Selects.orElse {first : List Char → Option Captures}
    {Taken : List Char → Captures → Prop} (taking : Selects first Taken)
    (takes : ∀ {path captures}, Taken path captures → ∃ value later, captures = some value :: later)
    (selects : Selects next Admissible) :
    Selects
      (fun path =>
        match first path with
        | some captures => some captures
        | none => (next path).map (none :: ·))
      (fun path captures => Taken path captures ∨
        ∃ later, captures = none :: later ∧ Admissible path later) where
  sound := by
    intro path captures found
    cases result : first path with
    | some taken =>
        rw [result] at found
        cases found
        exact Or.inl (taking.sound result)
    | none =>
        rw [result] at found
        rcases Option.map_eq_some_iff.mp found with ⟨later, isFound, rfl⟩
        exact Or.inr ⟨later, rfl, selects.sound isFound⟩
  best := by
    rintro path captures (taken | ⟨later, rfl, admissible⟩)
    · rcases taking.best taken with ⟨found, isFound, order⟩
      exact ⟨found, by rw [isFound], order⟩
    · cases result : first path with
      | some found =>
          rcases takes (taking.sound result) with ⟨value, others, rfl⟩
          exact ⟨_, rfl, Or.inr (.taken _ _ _)⟩
      | none =>
          rcases selects.best admissible with ⟨found, isFound, order⟩
          rw [isFound]
          refine ⟨_, rfl, ?_⟩
          rcases order with rfl | precedes
          · exact Or.inl rfl
          · exact Or.inr (.later _ precedes)

/-- An optional value in front, together with its separator if it owns one. -/
theorem Selects.searchOptional (selects : Selects next Admissible) (separator : Option Char)
    (excludesDot : Bool) :
    Selects (searchOptional (separator.map agrees) (admits excludesDot) next)
      (fun path captures =>
        (∃ lead value rest later, path = lead ++ (value ++ rest) ∧ captures = some value :: later ∧
          Spells agrees separator.toList lead ∧ IsValue excludesDot value ∧
          Admissible rest later) ∨
        ∃ later, captures = none :: later ∧ Admissible path later) := by
  cases separator with
  | none =>
      refine ((selects.searchValue excludesDot).orElse ?_ selects).congr ?_
      · rintro path captures ⟨value, rest, later, -, rfl, -⟩
        exact ⟨value, later, rfl⟩
      · intro path captures
        refine or_congr_left ⟨?_, ?_⟩
        · rintro ⟨value, rest, later, rfl, rfl, isValue, admissible⟩
          exact ⟨[], value, rest, later, rfl, rfl, List.Forall₂.nil, isValue, admissible⟩
        · rintro ⟨lead, value, rest, later, rfl, rfl, spelled, isValue, admissible⟩
          cases spelled
          exact ⟨value, rest, later, rfl, rfl, isValue, admissible⟩
  | some sep =>
      refine (((selects.searchValue excludesDot).searchChar (agrees sep)).orElse ?_ selects).congr ?_
      · rintro path captures ⟨c, tail, -, -, value, rest, later, -, rfl, -⟩
        exact ⟨value, later, rfl⟩
      · intro path captures
        refine or_congr_left ⟨?_, ?_⟩
        · rintro ⟨c, tail, rfl, fit, value, rest, later, rfl, rfl, isValue, admissible⟩
          exact ⟨[c], value, rest, later, rfl, rfl, .cons fit .nil, isValue, admissible⟩
        · rintro ⟨lead, value, rest, later, rfl, rfl, spelled, isValue, admissible⟩
          cases spelled with
          | cons fit spelled =>
              cases spelled
              exact ⟨_, _, rfl, fit, value, rest, later, rfl, rfl, isValue, admissible⟩

end Token
end PathTemplate
