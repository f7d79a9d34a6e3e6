import Mathlib.Data.List.Forall2
import PathTemplate.CommandLine.Run
import PathTemplate.Proofs.Text.Separator

namespace PathTemplate
namespace CommandLine

/-!
# Which texts are pairs

A text gives a value to a name if it has an equals sign and something in front of the first one.
The value is all that follows, be it empty or with further equals signs.  Texts are read from the
left, and the first one that is no pair decides the failure: the texts behind it are not looked at.
-/

/-- A text gives a value to a name, which ends at the first equals sign. -/
structure Gives (text : String) (pair : String × String) : Prop where
  named : pair.1 ≠ ""
  plain : '=' ∉ pair.1.toList
  split : text.toList = pair.1.toList ++ '=' :: pair.2.toList

/-- A text that is no pair: there is no equals sign in it, or nothing in front of the first one. -/
def IsMalformed (text : String) : Prop :=
  '=' ∉ text.toList ∨ text.toList.head? = some '='

instance (text : String) : Decidable (IsMalformed text) :=
  inferInstanceAs (Decidable (_ ∨ _))

/-- What is told of such a text. -/
def malformed (text : String) : Failure :=
  .ofCause (.message
    (if '=' ∈ text.toList then "Empty key in '" ++ text ++ "'"
      else "Expected KEY=VALUE but got '" ++ text ++ "'"))

/-- A text is the first one in a list that is no pair. -/
def FirstMalformed (texts : List String) (text : String) : Prop :=
  ∃ before after, texts = before ++ text :: after ∧ IsMalformed text ∧
    ∀ earlier ∈ before, ¬ IsMalformed earlier

/-! ## Single texts -/

theorem Gives.not_isMalformed {text : String} {pair : String × String} (gives : Gives text pair) :
    ¬ IsMalformed text := by
  rintro (noSign | first)
  · rw [gives.split] at noSign
    exact noSign (List.mem_append_right _ List.mem_cons_self)
  · rw [gives.split] at first
    cases name : pair.1.toList with
    | nil => exact gives.named (String.toList_eq_nil_iff.mp name)
    | cons c rest =>
        rw [name] at first
        have plain := gives.plain
        rw [name, Option.some.inj first] at plain
        exact plain List.mem_cons_self

theorem readPair_of_gives {text : String} {pair : String × String} (gives : Gives text pair) :
    readPair text = .ok pair := by
  have ends : Boundary '=' ('=' :: pair.2.toList) := .cons pair.2.toList
  have named : pair.1.toList ≠ [] := by
    intro nothing
    exact gives.named (String.toList_eq_nil_iff.mp nothing)
  rw [readPair, gives.split, Boundary.takeWhile_append gives.plain ends,
    Boundary.dropWhile_append gives.plain ends]
  dsimp only
  rw [if_neg named, String.ofList_toList, String.ofList_toList]

/-- Reading gives what the text gives, or else fails on account of it. -/
theorem gives_or_isMalformed (text : String) :
    (∃ pair, Gives text pair) ∨ IsMalformed text ∧ readPair text = .error (malformed text) := by
  rcases Boundary.exists_append '=' text.toList with ⟨name, rest, split, plain, ends⟩
  have taken : text.toList.takeWhile (· ≠ '=') = name := by
    rw [split, Boundary.takeWhile_append plain ends]
  have dropped : text.toList.dropWhile (· ≠ '=') = rest := by
    rw [split, Boundary.dropWhile_append plain ends]
  rcases ends with rfl | ⟨value, rfl⟩
  · have noSign : '=' ∉ text.toList := by
      rw [split, List.append_nil]
      exact plain
    refine Or.inr ⟨Or.inl noSign, ?_⟩
    rw [readPair, dropped, malformed, if_neg noSign]
    rfl
  · cases name with
    | nil =>
        have sign : '=' ∈ text.toList := by
          rw [split]
          exact List.mem_cons_self
        refine Or.inr ⟨Or.inr (by rw [split]; rfl), ?_⟩
        rw [readPair, taken, dropped, malformed, if_pos sign]
        rfl
    | cons c name =>
        left
        refine ⟨(String.ofList (c :: name), String.ofList value), ?_, ?_, ?_⟩
        · intro nothing
          rw [← String.ofList_nil, String.ofList_inj] at nothing
          exact List.cons_ne_nil _ _ nothing
        · rw [String.toList_ofList]
          exact plain
        · rw [String.toList_ofList, String.toList_ofList]
          exact split

theorem exists_gives_iff {text : String} : (∃ pair, Gives text pair) ↔ ¬ IsMalformed text := by
  constructor
  · rintro ⟨pair, gives⟩
    exact gives.not_isMalformed
  · intro wellFormed
    rcases gives_or_isMalformed text with given | ⟨isMalformed, -⟩
    · exact given
    · exact absurd isMalformed wellFormed

theorem readPair_of_isMalformed {text : String} (isMalformed : IsMalformed text) :
    readPair text = .error (malformed text) := by
  rcases gives_or_isMalformed text with ⟨pair, gives⟩ | ⟨-, refused⟩
  · exact absurd isMalformed gives.not_isMalformed
  · exact refused

/-! ## Lists of texts -/

theorem mapM_readPair_of_gives {texts : List String} {pairs : List (String × String)}
    (given : List.Forall₂ Gives texts pairs) : texts.mapM readPair = .ok pairs := by
  induction given with
  | nil => rfl
  | cons gives _ inductionHypothesis =>
      rw [List.mapM_cons, readPair_of_gives gives, inductionHypothesis]
      rfl

theorem mapM_readPair_of_firstMalformed {texts : List String} {text : String}
    (first : FirstMalformed texts text) : texts.mapM readPair = .error (malformed text) := by
  rcases first with ⟨before, after, rfl, isMalformed, wellFormed⟩
  induction before with
  | nil =>
      rw [List.nil_append, List.mapM_cons, readPair_of_isMalformed isMalformed]
      rfl
  | cons earlier before inductionHypothesis =>
      rcases exists_gives_iff.mpr (wellFormed earlier List.mem_cons_self) with ⟨pair, gives⟩
      rw [List.cons_append, List.mapM_cons, readPair_of_gives gives,
        inductionHypothesis (fun other listed => wellFormed other (List.mem_cons_of_mem _ listed))]
      rfl

theorem FirstMalformed.head {text : String} (isMalformed : IsMalformed text)
    (texts : List String) : FirstMalformed (text :: texts) text :=
  ⟨[], texts, rfl, isMalformed, nofun⟩

theorem FirstMalformed.cons {texts : List String} {text first : String}
    (wellFormed : ¬ IsMalformed first) (found : FirstMalformed texts text) :
    FirstMalformed (first :: texts) text := by
  rcases found with ⟨before, after, rfl, isMalformed, passed⟩
  refine ⟨first :: before, after, rfl, isMalformed, ?_⟩
  intro earlier listed
  rcases List.mem_cons.mp listed with rfl | listed
  · exact wellFormed
  · exact passed earlier listed

end CommandLine
end PathTemplate
