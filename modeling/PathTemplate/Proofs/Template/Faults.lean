import Mathlib.Data.List.Induction
import Mathlib.Data.List.Nodup
import PathTemplate.Proofs.Template.Grammar
import PathTemplate.Proofs.Template.Reader

namespace PathTemplate

/-!
# Which templates are refused, and why

A template is refused if its text is empty, if a scan of it declares a name for the second time, or
if it comes to a backslash with nothing behind it.  What comes first from the left is reported, at
the number of bytes that were read up to there.  A text in which the scan meets no fault is
accepted, and the template accounts for each of its lexemes: the declarations are its parameters, in
order, and the characters are those of its literals and separators.
-/

/-- The characters of the text that a part takes up outside of declarations. -/
def Part.literalText : Part → List Char
  | literal text => text.toList
  | param _ separator => separator.toList

namespace Lexeme

/-- The character that a lexeme stands for, without the escape in front of it. -/
def literalText : Lexeme → List Char
  | char c _ => [c]
  | key _ => []
  | danglingEscape => []

/-- The names that lexemes declare, in order. -/
def names (lexemes : List Lexeme) : List String :=
  (lexemes.filterMap declared).map Key.name

theorem names_append (first second : List Lexeme) :
    names (first ++ second) = names first ++ names second := by
  rw [names, List.filterMap_append, List.map_append]
  rfl

/-- What a scan of template text comes to first: nothing to be scanned at all, a backslash with
nothing behind it, or the declaration of a name that is declared before. -/
inductive FirstFault (text : String) : TemplateFault → Prop where
  | undefined (empty : text = "") : FirstFault text .undefined
  /-- Only the backslash is left, and up to there every name is declared once. -/
  | danglingEscape {lexemes : List Lexeme} (scans : Scans text.toList lexemes ['\\'])
      (distinct : (names lexemes).Nodup) : FirstFault text (.danglingEscape text.utf8ByteSize)
  /-- Up to `rest` the text ends with the declaration, and in front of that every name is declared
  once. -/
  | repeatedName {lexemes : List Lexeme} {key : Key} {before rest : String}
      (split : text = before ++ rest)
      (scans : Scans text.toList (lexemes ++ [.key key]) rest.toList)
      (distinct : (names lexemes).Nodup) (repeated : key.name ∈ names lexemes) :
      FirstFault text (.repeatedName key.name before.utf8ByteSize)

/-! ## Lexemes without a fault -/

/-- Lexemes without a fault are passed over, and their names are remembered. -/
theorem firstFault_append {lexemes tail : List Lexeme} (plain : .danglingEscape ∉ lexemes)
    {seen : List String} (position : Nat) (distinct : (names lexemes).Nodup)
    (fresh : ∀ name ∈ names lexemes, name ∉ seen) :
    firstFault seen position (lexemes ++ tail) =
      firstFault ((names lexemes).reverse ++ seen) (position + (lexemes.map width).sum) tail := by
  induction lexemes generalizing seen position with
  | nil => rfl
  | cons lexeme lexemes inductionHypothesis =>
      have plainLater : .danglingEscape ∉ lexemes := fun member =>
        plain (List.mem_cons_of_mem _ member)
      rw [List.map_cons, List.sum_cons, ← Nat.add_assoc, List.cons_append]
      cases lexeme with
      | char c escaped => exact inductionHypothesis plainLater _ distinct fresh
      | danglingEscape => exact absurd List.mem_cons_self plain
      | key k =>
          have listed : names (key k :: lexemes) = k.name :: names lexemes := rfl
          rw [listed] at distinct fresh ⊢
          have apart := List.nodup_cons.mp distinct
          have freshLater : ∀ name ∈ names lexemes, name ∉ k.name :: seen := by
            intro name member known
            rcases List.mem_cons.mp known with same | before
            · exact apart.1 (same ▸ member)
            · exact fresh name (List.mem_cons_of_mem _ member) before
          rw [firstFault, if_neg (fresh k.name List.mem_cons_self),
            inductionHypothesis plainLater _ apart.2 freshLater, List.reverse_cons,
            List.append_assoc]
          rfl

/-- Where a name is repeated, there is a first time. -/
theorem exists_repeated {lexemes : List Lexeme} (repeats : ¬ (names lexemes).Nodup) :
    ∃ before k after, lexemes = before ++ key k :: after ∧ (names before).Nodup ∧
      k.name ∈ names before := by
  induction lexemes using List.reverseRecOn with
  | nil => exact absurd List.nodup_nil repeats
  | append_singleton lexemes last inductionHypothesis =>
      rw [names_append] at repeats
      by_cases distinct : (names lexemes).Nodup
      · cases last with
        | char c escaped => exact absurd distinct (List.append_nil (names lexemes) ▸ repeats)
        | danglingEscape => exact absurd distinct (List.append_nil (names lexemes) ▸ repeats)
        | key k =>
            refine ⟨lexemes, k, [], rfl, distinct, ?_⟩
            by_contra fresh
            apply repeats
            have extended := distinct.concat fresh
            rwa [List.concat_eq_append] at extended
      · rcases inductionHypothesis distinct with ⟨before, k, after, split, earlier, member⟩
        refine ⟨before, k, after ++ [last], ?_, earlier, member⟩
        rw [split, List.append_assoc]
        rfl

end Lexeme

namespace Template

open Lexeme

variable {text : String}

private theorem scan_ne_nil {cs : List Char} (nonempty : cs ≠ []) : scan cs ≠ [] := by
  intro nothing
  rcases exists_scans cs with ⟨lexemes, rest, scans, atEnd⟩
  rw [scans.scan_eq, List.append_eq_nil_iff] at nothing
  rw [nothing.1] at scans
  cases scans
  rcases atEnd with empty | escape
  · exact nonempty empty
  · rw [escape, scan] at nothing
    cases nothing.2

/-- A text that is not empty is judged by the first fault of its lexemes. -/
private theorem read_eq (nonempty : text ≠ "") :
    read text =
      match firstFault [] 0 (scan text.toList) with
      | some fault => .error fault
      | none => .ok ⟨assemble [] false (scan text.toList)⟩ := by
  have someLexeme : scan text.toList ≠ [] := by
    apply scan_ne_nil
    intro empty
    exact nonempty (String.toList_eq_nil_iff.mp empty)
  unfold read
  cases lexemes : scan text.toList with
  | nil => exact absurd lexemes someLexeme
  | cons first others => rfl

/-- What stands behind lexemes without a fault decides. -/
private theorem firstFault_scan {lexemes : List Lexeme} {cs rest : List Char}
    (scans : Scans cs lexemes rest) (distinct : (names lexemes).Nodup) :
    firstFault [] 0 (scan cs) =
      firstFault (names lexemes).reverse (lexemes.map width).sum (scan rest) := by
  have passed := @firstFault_append lexemes (scan rest) scans.not_mem_danglingEscape [] 0 distinct
    (fun _ _ => List.not_mem_nil)
  rwa [← scans.scan_eq, List.append_nil, Nat.zero_add] at passed

/-- A text that is scanned to its end without a fault is accepted. -/
theorem read_of_scans {lexemes : List Lexeme} (nonempty : text ≠ "")
    (scans : Scans text.toList lexemes []) (distinct : (names lexemes).Nodup) :
    read text = .ok ⟨assemble [] false lexemes⟩ := by
  have lexemesEq := scans.scan_eq
  rw [scan, List.append_nil] at lexemesEq
  rw [read_eq nonempty, firstFault_scan scans distinct, lexemesEq, scan]
  rfl

theorem read_of_firstFault {fault : TemplateFault} (first : FirstFault text fault) :
    read text = .error fault := by
  cases first with
  | undefined empty =>
      subst empty
      simp only [read, String.toList_empty, scan]
  | @danglingEscape lexemes scans distinct =>
      have nonempty : text ≠ "" := by
        intro empty
        rw [empty] at scans
        cases scans
      have bytes := scans.utf8Len_eq
      rw [String.utf8Len_toList] at bytes
      have last : String.utf8Len ['\\'] = 1 := rfl
      have met : firstFault [] 0 (scan text.toList) =
          some (.danglingEscape text.utf8ByteSize) := by
        rw [firstFault_scan scans distinct, scan, firstFault, width, bytes, last]
      rw [read_eq nonempty, met]
  | @repeatedName lexemes key before rest split scans distinct repeated =>
      rcases scans.cut with ⟨middle, earlier, declaration⟩
      have nonempty : text ≠ "" := by
        intro empty
        rw [empty] at earlier
        cases earlier
        cases repeated
      have bytes := scans.utf8Len_eq
      rw [String.utf8Len_toList, String.utf8Len_toList, split, String.utf8ByteSize_append,
        List.map_append, List.sum_append] at bytes
      have known : key.name ∈ (names lexemes).reverse := List.mem_reverse.mpr repeated
      rw [read_eq nonempty, firstFault_scan earlier distinct, declaration.scan_eq,
        List.singleton_append, firstFault, if_pos known]
      have position : (lexemes.map width).sum + (Lexeme.key key).width = before.utf8ByteSize := by
        have single : ([Lexeme.key key].map width).sum = (Lexeme.key key).width := by simp
        omega
      rw [position]

/-- A text is scanned to its end without a fault, or a fault comes first. -/
theorem scans_or_firstFault (text : String) :
    (text ≠ "" ∧ ∃ lexemes, Scans text.toList lexemes [] ∧ (names lexemes).Nodup) ∨
      ∃ fault, FirstFault text fault := by
  by_cases empty : text = ""
  · exact Or.inr ⟨_, .undefined empty⟩
  · rcases exists_scans text.toList with ⟨lexemes, rest, scans, atEnd⟩
    by_cases distinct : (names lexemes).Nodup
    · rcases atEnd with rfl | rfl
      · exact Or.inl ⟨empty, lexemes, scans, distinct⟩
      · exact Or.inr ⟨_, .danglingEscape scans distinct⟩
    · -- The repetition comes first, even if the scan runs into a backslash later on.
      rcases exists_repeated distinct with ⟨before, key, after, rfl, earlier, repeated⟩
      rw [List.append_cons] at scans
      rcases scans.cut with ⟨middle, first, -⟩
      rcases first.exists_append with ⟨front, split⟩
      have cutText : text = String.ofList front ++ String.ofList middle := by
        rw [← String.ofList_append, ← split, String.ofList_toList]
      have upToHere : Scans text.toList (before ++ [.key key]) (String.ofList middle).toList := by
        rwa [String.toList_ofList]
      exact Or.inr ⟨_, .repeatedName cutText upToHere earlier repeated⟩

/-- The errors of reading are the faults that a scan comes to first. -/
theorem read_eq_error_iff (fault : TemplateFault) :
    read text = .error fault ↔ FirstFault text fault := by
  constructor
  · intro refused
    rcases scans_or_firstFault text with ⟨nonempty, lexemes, scans, distinct⟩ | ⟨other, first⟩
    · rw [read_of_scans nonempty scans distinct] at refused
      cases refused
    · have same := (read_of_firstFault first).symm.trans refused
      cases same
      exact first
  · exact read_of_firstFault

/-- The lexemes of a template that is accepted, and what it was built from. -/
theorem scans_of_read {t : Template} (ok : read text = .ok t) :
    text ≠ "" ∧ ∃ lexemes, Scans text.toList lexemes [] ∧ (names lexemes).Nodup ∧
      t.parts = assemble [] false lexemes := by
  rcases scans_or_firstFault text with ⟨nonempty, lexemes, scans, distinct⟩ | ⟨fault, first⟩
  · rw [read_of_scans nonempty scans distinct] at ok
    cases ok
    exact ⟨nonempty, lexemes, scans, distinct, rfl⟩
  · rw [read_of_firstFault first] at ok
    cases ok

/-- Building the parts neither drops nor doubles a character. -/
theorem flatMap_literalText_assemble (lexemes : List Lexeme) (held : List Char) (escaped : Bool) :
    (assemble held escaped lexemes).flatMap Part.literalText =
      held.reverse ++ lexemes.flatMap Lexeme.literalText := by
  have flushed (before : List Char) :
      (flush before).flatMap Part.literalText = before.reverse := by
    cases before with
    | nil => rfl
    | cons c others =>
        change (String.ofList (c :: others).reverse).toList ++ [] = _
        rw [String.toList_ofList, List.append_nil]
  induction lexemes generalizing held escaped with
  | nil => exact (flushed held).trans (List.append_nil _).symm
  | cons lexeme rest inductionHypothesis =>
      rw [List.flatMap_cons]
      cases lexeme with
      | char c e =>
          rw [assemble, inductionHypothesis, List.reverse_cons, List.append_assoc]
          rfl
      | danglingEscape => exact inductionHypothesis held escaped
      | key k =>
          rcases assemble_key held escaped k with ⟨before, separator, rfl, -, parts⟩
          calc
            (assemble (separator.toList ++ before) escaped (.key k :: rest)).flatMap
                Part.literalText =
                before.reverse ++ (separator.toList ++ rest.flatMap Lexeme.literalText) := by
              rw [parts, List.flatMap_append, List.flatMap_cons, flushed, inductionHypothesis]
              rfl
            _ = (separator.toList ++ before).reverse ++
                ((Lexeme.key k).literalText ++ rest.flatMap Lexeme.literalText) := by
              cases separator <;> simp [Lexeme.literalText]

/-- Wherever a scan ends, the faults it met up to there are reason enough to refuse the text. -/
theorem exists_read_eq_error_iff :
    (∃ fault, read text = .error fault) ↔
      text = "" ∨ (∃ lexemes, Scans text.toList lexemes ['\\']) ∨
        ∃ lexemes rest, Scans text.toList lexemes rest ∧ ¬ (names lexemes).Nodup := by
  constructor
  · intro refused
    rcases refused with ⟨fault, refusedFor⟩
    cases (read_eq_error_iff fault).mp refusedFor with
    | undefined empty => exact Or.inl empty
    | @danglingEscape lexemes scans _ => exact Or.inr (Or.inl ⟨lexemes, scans⟩)
    | @repeatedName lexemes key _ rest _ scans _ repeated =>
        refine Or.inr (Or.inr ⟨_, rest.toList, scans, ?_⟩)
        intro distinct
        rw [names_append] at distinct
        exact List.disjoint_of_nodup_append distinct repeated List.mem_cons_self
  · intro faulty
    rcases scans_or_firstFault text with ⟨nonempty, lexemes, scans, distinct⟩ | ⟨fault, first⟩
    · rcases faulty with empty | ⟨others, dangling⟩ | ⟨others, rest, partly, repeats⟩
      · exact absurd empty nonempty
      · have whole := scans.eq_append dangling
        rw [scan] at whole
        have member : .danglingEscape ∈ lexemes := by
          rw [whole]
          exact List.mem_append_right _ List.mem_cons_self
        exact absurd member scans.not_mem_danglingEscape
      · have whole := scans.eq_append partly
        rw [whole, names_append] at distinct
        exact absurd (List.nodup_append.mp distinct).1 repeats
    · exact ⟨fault, read_of_firstFault first⟩

/-- The message of an error names the place in bytes. -/
private theorem message_danglingEscape (position : Nat) :
    (Error.invalidTemplate (.danglingEscape position)).message =
      "Invalid URL template: Unexpected end of input at position " ++ toString position := by
  change "Invalid URL template: " ++ ("Unexpected end of input at position " ++ _) = _
  rw [← String.append_assoc]
  rfl

private theorem message_repeatedName (name : String) (position : Nat) :
    (Error.invalidTemplate (.repeatedName name position)).message =
      "Invalid URL template: Duplicate parameter '" ++ name ++ "' at position " ++
        toString position := by
  change "Invalid URL template: " ++ ("Duplicate parameter '" ++ name ++ "' at position " ++ _) = _
  rw [← String.append_assoc, ← String.append_assoc, ← String.append_assoc]
  rfl

/-- Reading a template fails exactly if its text is empty, or if a scan of it meets a backslash with
nothing behind it or a name that is declared before.  The fault that the scan meets first is the one
that is reported, with the byte position at which it was met and in words.  If there is none, then
the lexemes of the text are the parameters and the characters of the template. -/
theorem read_scans (text : String) :
    ((∃ fault, read text = .error fault) ↔
      text = "" ∨ (∃ lexemes, Scans text.toList lexemes ['\\']) ∨
        ∃ lexemes rest, Scans text.toList lexemes rest ∧ ¬ (names lexemes).Nodup) ∧
    (∀ fault, read text = .error fault ↔ FirstFault text fault) ∧
    (∀ position, (Error.invalidTemplate (.danglingEscape position)).message =
      "Invalid URL template: Unexpected end of input at position " ++ toString position) ∧
    (∀ name position, (Error.invalidTemplate (.repeatedName name position)).message =
      "Invalid URL template: Duplicate parameter '" ++ name ++ "' at position " ++
        toString position) ∧
    ∀ t, read text = .ok t →
      ∃ lexemes, (∀ others, Scans text.toList others [] ↔ others = lexemes) ∧
        t.keys = lexemes.filterMap declared ∧
        t.parts.flatMap Part.literalText = lexemes.flatMap Lexeme.literalText := by
  refine ⟨exists_read_eq_error_iff, read_eq_error_iff, message_danglingEscape,
    message_repeatedName, ?_⟩
  intro t ok
  rcases scans_of_read ok with ⟨-, lexemes, scans, -, parts⟩
  refine ⟨lexemes, ?_, ?_, ?_⟩
  · intro others
    constructor
    · exact scans.unique
    · intro same
      rw [same]
      exact scans
  · rw [keys, parts, filterMap_assemble]
  · rw [parts, flatMap_literalText_assemble]
    rfl

/-- A name that is repeated in front of a dangling backslash, and a text with an escaped colon. -/
theorem read_scans_repeated :
    let faulty := "/é:id\\//:id?x\\"
    let sound := "/a\\:b/:x?.:y"
    let t : Template := ⟨[.literal "/a:b", .param ⟨"x", true⟩ (some '/'),
      .param ⟨"y", false⟩ (some '.')]⟩
    FirstFault faulty (.repeatedName "id" 13) ∧ (∃ fault, read faulty = .error fault) ∧
      read sound = .ok t ∧
      ∃ lexemes, Scans sound.toList lexemes [] ∧ t.keys = lexemes.filterMap declared ∧
        t.parts.flatMap Part.literalText = lexemes.flatMap Lexeme.literalText := by
  intro faulty sound t
  have refused : read faulty = .error (.repeatedName "id" 13) := by decide +kernel
  have accepted : read sound = .ok t := by decide +kernel
  have first := ((read_scans faulty).2.1 _).mp refused
  rcases (read_scans sound).2.2.2.2 t accepted with ⟨lexemes, only, keys, characters⟩
  exact ⟨first, ⟨_, refused⟩, accepted, lexemes, (only lexemes).mpr rfl, keys, characters⟩

end Template
end PathTemplate
