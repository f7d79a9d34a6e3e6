import PathTemplate.Proofs.Matching.Extents
import PathTemplate.Proofs.Text.CaseFold

namespace PathTemplate

open Token

/-!
# Matching folded paths

Where case does not count, a path may be folded before it is matched.  The search then takes the same
steps: a literal agrees with a character exactly if it agrees with the folded one, and slashes and
dots, which bound the values, are folded to by themselves alone.  So the captures are folded, and
nothing else changes.  In particular paths that are equal up to case are cut at the same places.

This is a property of the search, not of decompositions: the answer is compared step by step, so
the order of preference does not enter.  Places are counted in characters.  In bytes they may differ,
since letters that are equal up to case may be encoded in different lengths.
-/

namespace Token

/-- Captures with a map applied to each of their characters. -/
def mapCaptures (f : Char → Char) (captures : Captures) : Captures :=
  captures.map (·.map (·.map f))

/-- A search finds the same in a path and in its image, up to the map. -/
def Commutes (f : Char → Char) (next : List Char → Option Captures) : Prop :=
  ∀ path, next (path.map f) = (next path).map (mapCaptures f)

namespace Commutes

variable {f : Char → Char} {next : List Char → Option Captures}

theorem searchChar (commutes : Commutes f next) {fits : Char → Bool}
    (same : ∀ c, fits (f c) = fits c) : Commutes f (searchChar fits next) := by
  intro path
  cases path with
  | nil => rfl
  | cons c rest =>
      simp only [List.map_cons, Token.searchChar, same]
      by_cases fit : fits c = true
      · simp only [fit, if_true]
        exact commutes rest
      · simp only [fit, Bool.false_eq_true, if_false, Option.map_none]

private theorem mapCaptures_extend (c : Char) (captures : Captures) :
    mapCaptures f (extend c captures) = extend (f c) (mapCaptures f captures) := by
  cases captures with
  | nil => rfl
  | cons choice rest => cases choice <;> rfl

theorem searchValue (commutes : Commutes f next) {admitted : Char → Bool}
    (same : ∀ c, admitted (f c) = admitted c) : Commutes f (searchValue admitted next) := by
  intro path
  induction path with
  | nil => rfl
  | cons c rest inductionHypothesis =>
      simp only [List.map_cons, Token.searchValue, same]
      by_cases admits : admitted c = true
      · simp only [admits, if_true]
        rw [commutes rest, inductionHypothesis]
        cases next rest with
        | some captures => rfl
        | none =>
            simp only [Option.map_none, Option.map_map]
            apply congrArg (fun g => Option.map g _)
            funext captures
            exact (mapCaptures_extend c captures).symm
      · simp only [admits, Bool.false_eq_true, if_false, Option.map_none]

/-- Trying one search before another, which is left to omit a value. -/
private theorem orElse {first : List Char → Option Captures} (taking : Commutes f first)
    (commutes : Commutes f next) :
    Commutes f (fun path =>
      match first path with
      | some captures => some captures
      | none => (next path).map (none :: ·)) := by
  intro path
  dsimp only
  rw [taking path, commutes path]
  cases first path with
  | some captures => rfl
  | none =>
      simp only [Option.map_none, Option.map_map]
      rfl

theorem searchOptional (commutes : Commutes f next) {separator : Option (Char → Bool)}
    {admitted : Char → Bool} (sameSeparator : ∀ fits ∈ separator, ∀ c, fits (f c) = fits c)
    (same : ∀ c, admitted (f c) = admitted c) :
    Commutes f (searchOptional separator admitted next) := by
  have taking := commutes.searchValue same
  cases separator with
  | none => exact taking.orElse commutes
  | some fits => exact (taking.searchChar (sameSeparator fits rfl)).orElse commutes

/-- A search commutes with a map that the comparison of characters does not notice. -/
theorem search {agrees : Char → Char → Bool} {ends : List Char → Bool}
    (sameAgrees : ∀ a c, agrees a (f c) = agrees a c)
    (sameAdmits : ∀ excludesDot c, admits excludesDot (f c) = admits excludesDot c)
    (sameEnds : ∀ rest, ends (rest.map f) = ends rest) (tokens : List Token) :
    Commutes f (search agrees ends tokens) := by
  induction tokens with
  | nil =>
      intro path
      simp only [Token.search, sameEnds]
      split <;> rfl
  | cons token rest inductionHypothesis =>
      cases token with
      | char c => exact inductionHypothesis.searchChar (sameAgrees c)
      | value excludesDot => exact inductionHypothesis.searchValue (sameAdmits excludesDot)
      | optionalValue separator excludesDot =>
          apply inductionHypothesis.searchOptional ?_ (sameAdmits excludesDot)
          intro fits member
          rcases Option.map_eq_some_iff.mp member with ⟨a, -, rfl⟩
          exact sameAgrees a

end Commutes

theorem admits_fold (excludesDot : Bool) (c : Char) :
    admits excludesDot (CaseFold.fold c) = admits excludesDot c := by
  have slash := CaseFold.fold_eq_iff (c := '/') (d := c) (by decide) (by decide)
  have dot := CaseFold.fold_eq_iff (c := '.') (d := c) (by decide) (by decide)
  rw [Bool.eq_iff_iff]
  simp only [admits, Bool.and_eq_true, bne_iff_ne, ne_eq, Bool.not_eq_true',
    Bool.and_eq_false_iff, beq_eq_false_iff_ne, slash, dot]

end Token

theorem Extent.allows_map_fold (extent : Extent) (rest : List Char) :
    extent.allows (rest.map CaseFold.fold) = extent.allows rest := by
  have slash (c : Char) := CaseFold.fold_eq_iff (c := '/') (d := c) (by decide) (by decide)
  rw [Bool.eq_iff_iff]
  cases extent with
  | whole =>
      cases rest with
      | nil => rfl
      | cons c more => simp [allows, slash]
  | leading =>
      cases rest with
      | nil => rfl
      | cons c more => simp [allows, slash]

namespace Template

/-! ## Where the values stand -/

/-- Where the values of a decomposition stand in the path, if its parts begin at a given place: the
place of each value and its length. -/
def spansFrom (start : Nat) : List Part → Captures → List (Option (Nat × Nat))
  | .literal text :: parts, choices =>
      spansFrom (start + (standing text parts).length) parts choices
  | .param _ separator :: parts, some taken :: choices =>
      let place := start + separator.toList.length
      some (place, taken.length) :: spansFrom (place + taken.length) parts choices
  | .param _ _ :: parts, none :: choices => none :: spansFrom start parts choices
  | _, _ => []

/-- Where the values of a decomposition stand in the path. -/
def spans (t : Template) (choices : Captures) : List (Option (Nat × Nat)) :=
  spansFrom 0 t.parts choices

/-- What stands at given places of a path. -/
def cutOut (path : List Char) (spans : List (Option (Nat × Nat))) : Captures :=
  spans.map (·.map (fun span => (path.drop span.1).take span.2))

/-- The values of a decomposition are what stands at their places. -/
theorem Decomposes.cutOut_spansFrom {agrees : Char → Char → Bool} {Leaves : List Char → Prop}
    {parts : List Part} {path : List Char} {choices : Captures}
    (decomposes : Decomposes agrees Leaves parts path choices) (before : List Char) :
    cutOut (before ++ path) (spansFrom before.length parts choices) = choices := by
  induction decomposes generalizing before with
  | done _ => rfl
  | @literal text parts piece path choices more spelled _ inductionHypothesis =>
      have later := inductionHypothesis (before ++ piece)
      rw [List.length_append, ← spelled.length_eq, List.append_assoc] at later
      rw [spansFrom, standing_of_ne_nil more]
      exact later
  | lastLiteral _ _ => rfl
  | @taken key separator parts lead value path choices spelled _ _ inductionHypothesis =>
      have later := inductionHypothesis (before ++ (lead ++ value))
      simp only [List.length_append, ← spelled.length_eq, List.append_assoc,
        ← Nat.add_assoc] at later
      have here : ((before ++ (lead ++ (value ++ path))).drop
          (before.length + separator.toList.length)).take value.length = value := by
        rw [spelled.length_eq, ← List.append_assoc, ← List.length_append, List.drop_left,
          List.take_left]
      rw [spansFrom, cutOut, List.map_cons, Option.map_some, here]
      exact congrArg (some value :: ·) later
  | omitted _ _ inductionHypothesis =>
      exact congrArg (none :: ·) (inductionHypothesis before)

/-- Places depend on the lengths of values only. -/
theorem spansFrom_mapCaptures (f : Char → Char) (start : Nat) (parts : List Part)
    (choices : Captures) :
    spansFrom start parts (mapCaptures f choices) = spansFrom start parts choices := by
  induction parts generalizing start choices with
  | nil => cases choices <;> rfl
  | cons part parts inductionHypothesis =>
      cases part with
      | literal text =>
          rw [spansFrom, spansFrom]
          exact inductionHypothesis _ choices
      | param key separator =>
          cases choices with
          | nil => rfl
          | cons choice choices =>
              cases choice with
              | none => exact congrArg (none :: ·) (inductionHypothesis start choices)
              | some value =>
                  have later := inductionHypothesis
                    (start + separator.toList.length + value.length) choices
                  change some (_, (value.map f).length) ::
                    spansFrom (_ + (value.map f).length) parts (mapCaptures f choices) = _
                  rw [List.length_map, later]
                  rfl

/-- What agrees may be compared more leniently. -/
theorem Decomposes.loosen {agrees others : Char → Char → Bool} {Leaves : List Char → Prop}
    (looser : ∀ c d, agrees c d = true → others c d = true) {parts : List Part}
    {path : List Char} {choices : Captures}
    (decomposes : Decomposes agrees Leaves parts path choices) :
    Decomposes others Leaves parts path choices := by
  induction decomposes with
  | done leaves => exact .done leaves
  | literal more spelled _ inductionHypothesis =>
      exact .literal more (spelled.imp looser) inductionHypothesis
  | lastLiteral spelled leaves => exact .lastLiteral (spelled.imp looser) leaves
  | taken spelled isValue _ inductionHypothesis =>
      exact .taken (spelled.imp looser) isValue inductionHypothesis
  | omitted optional _ inductionHypothesis => exact .omitted optional inductionHypothesis

end Template

/-! ## Folding a path -/

namespace CaseFold

/-- A text with every character folded. -/
def foldText (text : String) : String :=
  String.ofList (text.toList.map fold)

theorem foldText_ofList (cs : List Char) :
    foldText (String.ofList cs) = String.ofList (cs.map fold) := by
  rw [foldText, String.toList_ofList]

end CaseFold

namespace Template

open CaseFold (fold foldText)

theorem search_fold (t : Template) (extent : Extent) :
    Commutes fold (search (CaseFold.agree false) extent.allows t.tokens) :=
  .search CaseFold.agree_fold admits_fold extent.allows_map_fold t.tokens

theorem spellOut_mapCaptures_fold (choices : Captures) :
    spellOut (mapCaptures fold choices) = (spellOut choices).map (·.map foldText) := by
  rw [spellOut, mapCaptures, spellOut, List.map_map, List.map_map]
  apply List.map_congr_left
  intro choice _
  cases choice with
  | none => rfl
  | some taken => exact congrArg some (CaseFold.foldText_ofList taken).symm

/-- Paths that are equal up to case are cut at the same places. -/
theorem exists_prefers_of_foldText_eq {t : Template} {extent : Extent} {path other : String}
    (same : foldText other = foldText path) {choices : Captures}
    (prefers : t.Prefers extent false path choices) :
    ∃ others, t.Prefers extent false other others ∧ t.spans others = t.spans choices := by
  have found := (t.search_eq_some_iff extent false path choices).mpr prefers
  have folded : other.toList.map fold = path.toList.map fold := String.ofList_injective same
  have image : (search (CaseFold.agree false) extent.allows t.tokens other.toList).map
      (mapCaptures fold) = some (mapCaptures fold choices) := by
    calc
      (search (CaseFold.agree false) extent.allows t.tokens other.toList).map (mapCaptures fold) =
          search (CaseFold.agree false) extent.allows t.tokens (other.toList.map fold) :=
        (t.search_fold extent other.toList).symm
      _ = search (CaseFold.agree false) extent.allows t.tokens (path.toList.map fold) := by
        rw [folded]
      _ = (search (CaseFold.agree false) extent.allows t.tokens path.toList).map
            (mapCaptures fold) := t.search_fold extent path.toList
      _ = some (mapCaptures fold choices) := by
        rw [found, Option.map_some]
  rcases Option.map_eq_some_iff.mp image with ⟨others, foundToo, sameImage⟩
  refine ⟨others, (t.search_eq_some_iff extent false other others).mp foundToo, ?_⟩
  rw [spans, spans, ← spansFrom_mapCaptures fold, sameImage, spansFrom_mapCaptures]

/-- Where case does not count, folding a path folds what is captured in it and changes nothing else.
So in a path that is equal up to case every value stands at the same place.  And a path that is
accepted with regard to case is also accepted without. -/
theorem captures?_foldText (t : Template) (extent : Extent) (path : String) :
    (Pattern.ofTemplate t extent false).captures? (foldText path) =
      ((Pattern.ofTemplate t extent false).captures? path).map (·.map (·.map foldText)) ∧
    (∀ other, foldText other = foldText path →
      ∀ captures, (Pattern.ofTemplate t extent false).captures? path = some captures →
        ∃ choices others, t.Prefers extent false path choices ∧
          t.Prefers extent false other others ∧ t.spans others = t.spans choices ∧
          captures = spellOut (cutOut path.toList (t.spans choices)) ∧
          (Pattern.ofTemplate t extent false).captures? other =
            some (spellOut (cutOut other.toList (t.spans choices)))) ∧
    ((Pattern.ofTemplate t extent true).Accepts path →
      (Pattern.ofTemplate t extent false).Accepts path) := by
  have standing {path : String} {choices : Captures}
      (prefers : t.Prefers extent false path choices) :
      cutOut path.toList (t.spans choices) = choices :=
    prefers.1.cutOut_spansFrom []
  refine ⟨?_, ?_, ?_⟩
  · simp only [captures?_eq_search, foldText, String.toList_ofList,
      t.search_fold extent path.toList, Option.map_map]
    apply congrArg (fun g => Option.map g _)
    funext choices
    exact spellOut_mapCaptures_fold choices
  · intro other same captures captured
    rcases (t.captures?_eq_some_iff _ _ _ _).mp captured with ⟨choices, rfl, prefers⟩
    rcases exists_prefers_of_foldText_eq same prefers with ⟨others, prefersToo, sameSpans⟩
    refine ⟨choices, others, prefers, prefersToo, sameSpans, ?_, ?_⟩
    · rw [standing prefers]
    · rw [← sameSpans, standing prefersToo]
      exact (t.captures?_eq_some_iff _ _ _ _).mpr ⟨others, rfl, prefersToo⟩
  · simp only [accepts_iff_reads]
    rintro ⟨choices, reads⟩
    exact ⟨choices, reads.loosen (fun _ _ agrees => CaseFold.agree_of_caseSensitive agrees false)⟩

/-- Letters that fold together in threes, in a literal and in values, behind a separator that stops a
value. -/
theorem captures?_foldText_keys :
    let t : Template := ⟨[.literal "/Keys", .param ⟨"name", false⟩ (some '/'),
      .param ⟨"ext", true⟩ (some '.'), .param ⟨"tab", true⟩ (some '/')]⟩
    let path := "/Keys/Σ.Sk"
    let other := "/Keyſ/ς.ſK"
    let pattern := Pattern.ofTemplate t .leading false
    foldText other = foldText path ∧
      pattern.captures? path = some [some "Σ", some "Sk", none] ∧
      pattern.captures? (foldText path) = some [some "σ", some "sk", none] ∧
      (∃ choices others, t.Prefers .leading false path choices ∧
        t.Prefers .leading false other others ∧ t.spans others = t.spans choices ∧
        [some "Σ", some "Sk", none] = spellOut (cutOut path.toList (t.spans choices)) ∧
        pattern.captures? other = some (spellOut (cutOut other.toList (t.spans choices)))) ∧
      (Pattern.ofTemplate t .leading true).Accepts path ∧ pattern.Accepts path := by
  intro t path other pattern
  have same : foldText other = foldText path := by decide +kernel
  have captured : pattern.captures? path = some [some "Σ", some "Sk", none] := by decide +kernel
  have accepted : (Pattern.ofTemplate t .leading true).Accepts path := by decide +kernel
  have folded : [some "Σ", some "Sk", none].map (Option.map foldText) =
      [some "σ", some "sk", none] := by decide +kernel
  have laws := captures?_foldText t .leading path
  refine ⟨same, captured, ?_, laws.2.1 other same _ captured, accepted, laws.2.2 accepted⟩
  rw [laws.1, captured, Option.map_some, folded]

end Template
end PathTemplate
