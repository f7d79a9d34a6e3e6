import Mathlib.Data.List.Chain
import PathTemplate.Proofs.Template.Faults

namespace PathTemplate

/-!
# Which templates can be written

Reading only gives templates of a certain form: literals are not empty and do not stand side by
side, since the characters between two declarations are collected before they become a part.  Every
template of that form has a text, and the text can be found without looking for the characters that
mean something.  With a backslash in front of each of its characters a literal can neither declare a
parameter nor lose its last character to one, and it ends any declaration in front of it.

This is one spelling among others: that reading undoes writing says nothing about the text that a
template was read from.
-/

namespace Part

/-- A part that can be read: a literal is not empty, and a parameter has a name and at most a slash
or a dot in front of it. -/
def WellFormed : Part → Prop
  | literal text => text ≠ ""
  | param key separator =>
      IsName key.name.toList ∧ (separator = none ∨ separator = some '/' ∨ separator = some '.')

instance : DecidablePred WellFormed
  | literal text => inferInstanceAs (Decidable (text ≠ ""))
  | param key separator =>
      inferInstanceAs (Decidable (IsName key.name.toList ∧
        (separator = none ∨ separator = some '/' ∨ separator = some '.')))

/-- Any two parts may stand side by side but two literals, which would be one. -/
def MayPrecede : Part → Part → Prop
  | literal _, literal _ => False
  | literal _, param _ _ => True
  | param _ _, _ => True

instance : DecidableRel MayPrecede
  | literal _, literal _ => isFalse id
  | literal _, param _ _ => isTrue trivial
  | param _ _, _ => isTrue trivial

/-- The text of a part: a backslash in front of each character of a literal, and the declaration of
a parameter behind its separator. -/
def write : Part → List Char
  | literal text => text.toList.flatMap fun c => ['\\', c]
  | param key separator => separator.toList ++ key.declaration

/-- What the text of a part is scanned as. -/
def lexemes : Part → List Lexeme
  | literal text => text.toList.map (.char · true)
  | param key separator => separator.toList.map (.char · false) ++ [.key key]

end Part

/-- A template that can be read. -/
structure Template.WellFormed (t : Template) : Prop where
  nonempty : t.parts ≠ []
  parts : ∀ part ∈ t.parts, part.WellFormed
  apart : t.parts.IsChain Part.MayPrecede
  distinct : (t.keys.map Key.name).Nodup

instance : DecidablePred Template.WellFormed := fun t =>
  decidable_of_iff (t.parts ≠ [] ∧ (∀ part ∈ t.parts, part.WellFormed) ∧
      t.parts.IsChain Part.MayPrecede ∧ (t.keys.map Key.name).Nodup)
    ⟨fun all => ⟨all.1, all.2.1, all.2.2.1, all.2.2.2⟩,
      fun wellFormed => ⟨wellFormed.1, wellFormed.2, wellFormed.3, wellFormed.4⟩⟩

/-- The text of a template, part by part. -/
def Template.write (t : Template) : String :=
  String.ofList (t.parts.flatMap Part.write)

/-! ## What reading gives -/

namespace Template

open Lexeme

private theorem wellFormed_of_mem_flush {held : List Char} {part : Part}
    (member : part ∈ flush held) : part.WellFormed := by
  cases held with
  | nil => cases member
  | cons c before =>
      cases List.mem_singleton.mp member
      intro empty
      have characters := String.ofList_eq_empty_iff.mp empty
      exact List.cons_ne_nil c before (List.reverse_eq_nil_iff.mp characters)

theorem wellFormed_of_mem_assemble {lexemes : List Lexeme}
    (named : ∀ key, .key key ∈ lexemes → IsName key.name.toList) {held : List Char}
    {escaped : Bool} {part : Part} (member : part ∈ assemble held escaped lexemes) :
    part.WellFormed := by
  induction lexemes generalizing held escaped with
  | nil => exact wellFormed_of_mem_flush member
  | cons lexeme rest inductionHypothesis =>
      have namedLater : ∀ key, .key key ∈ rest → IsName key.name.toList := by
        intro key later
        exact named key (List.mem_cons_of_mem _ later)
      cases lexeme with
      | char c e => exact inductionHypothesis namedLater member
      | danglingEscape => exact inductionHypothesis namedLater member
      | key k =>
          rcases assemble_key held escaped k with ⟨before, separator, -, separates, parts⟩
          rw [parts] at member
          rcases List.mem_append.mp member with flushed | later
          · exact wellFormed_of_mem_flush flushed
          · rcases List.mem_cons.mp later with rfl | further
            · refine ⟨named k List.mem_cons_self, ?_⟩
              cases separator with
              | none => exact Or.inl rfl
              | some c =>
                  have slashOrDot := eq_slash_or_dot (separates c rfl)
                  exact Or.inr (slashOrDot.imp (congrArg some) (congrArg some))
            · exact inductionHypothesis namedLater further

/-- A literal is only ever put down in front of a parameter, or at the end. -/
theorem isChain_assemble (lexemes : List Lexeme) (held : List Char) (escaped : Bool) :
    (assemble held escaped lexemes).IsChain Part.MayPrecede := by
  induction lexemes generalizing held escaped with
  | nil => cases held <;> constructor
  | cons lexeme rest inductionHypothesis =>
      cases lexeme with
      | char c e => exact inductionHypothesis (c :: held) e
      | danglingEscape => exact inductionHypothesis held escaped
      | key k =>
          rcases assemble_key held escaped k with ⟨before, separator, -, -, parts⟩
          have behind : (.param k separator :: assemble [] false rest).IsChain Part.MayPrecede :=
            List.isChain_cons.mpr ⟨fun _ _ => trivial, inductionHypothesis [] false⟩
          rw [parts]
          cases before with
          | nil => exact behind
          | cons c others => exact List.isChain_cons_cons.mpr ⟨trivial, behind⟩

private theorem assemble_ne_nil {lexemes : List Lexeme} (nonempty : lexemes ≠ [])
    (plain : .danglingEscape ∉ lexemes) : assemble [] false lexemes ≠ [] := by
  intro nothing
  have keys := filterMap_assemble lexemes [] false
  have characters := flatMap_literalText_assemble lexemes [] false
  rw [nothing] at keys characters
  cases lexemes with
  | nil => exact nonempty rfl
  | cons lexeme rest =>
      cases lexeme with
      | char c e => cases characters
      | key k => cases keys
      | danglingEscape => exact plain List.mem_cons_self

theorem wellFormed_of_read {text : String} {t : Template} (ok : read text = .ok t) :
    t.WellFormed := by
  rcases scans_of_read ok with ⟨someText, lexemes, scans, -, parts⟩
  have someLexeme : lexemes ≠ [] := by
    intro nothing
    rw [nothing] at scans
    generalize characters : text.toList = cs at scans
    cases scans
    exact someText (String.toList_eq_nil_iff.mp characters)
  refine ⟨?_, ?_, ?_, nodup_names_of_read ok⟩
  · rw [parts]
    exact assemble_ne_nil someLexeme scans.not_mem_danglingEscape
  · intro part member
    rw [parts] at member
    exact wellFormed_of_mem_assemble (fun key => scans.isName) member
  · rw [parts]
    exact isChain_assemble lexemes [] false

end Template

/-! ## Reading what is written -/

namespace Part

/-- The text of a part ends any declaration in front of it. -/
theorem exists_write {part : Part} (wellFormed : part.WellFormed) :
    ∃ c more, part.write = c :: more ∧ isNameChar c = false ∧ c ≠ '?' := by
  cases part with
  | literal text =>
      rcases List.exists_cons_of_ne_nil (mt String.toList_eq_nil_iff.mp wellFormed) with
        ⟨c, more, characters⟩
      refine ⟨'\\', c :: more.flatMap fun c => ['\\', c], ?_, by decide, by decide⟩
      rw [write, characters]
      rfl
  | param key separator =>
      rcases wellFormed.2 with rfl | rfl | rfl
      · exact ⟨':', _, rfl, by decide, by decide⟩
      · exact ⟨'/', _, rfl, by decide, by decide⟩
      · exact ⟨'.', _, rfl, by decide, by decide⟩

theorem endsBefore_write {parts : List Part} (wellFormed : ∀ part ∈ parts, part.WellFormed)
    (key : Key) : key.EndsBefore (parts.flatMap write) := by
  cases parts with
  | nil => exact fun _ => nofun
  | cons part parts =>
      rcases exists_write (List.forall_mem_cons.mp wellFormed).1 with ⟨c, more, text, ends⟩
      rw [List.flatMap_cons, text]
      rintro - c ⟨⟩
      exact ends

private theorem scans_literal (text rest : List Char) :
    Lexeme.Scans ((text.flatMap fun c => ['\\', c]) ++ rest) (text.map (.char · true)) rest := by
  induction text with
  | nil => exact .rest rest
  | cons c text inductionHypothesis => exact .escaped c inductionHypothesis

theorem scans_write {part : Part} (wellFormed : part.WellFormed) {rest : List Char}
    (ends : ∀ key : Key, key.EndsBefore rest) :
    Lexeme.Scans (part.write ++ rest) part.lexemes rest := by
  cases part with
  | literal text => exact scans_literal text.toList rest
  | param key separator =>
      have declared : Lexeme.Scans (key.declaration ++ rest) [.key key] rest :=
        .declared wellFormed.1 (ends key) (.rest rest)
      rcases wellFormed.2 with rfl | rfl | rfl
      · exact declared
      · exact .plain (by decide) (fun colon => absurd colon (by decide)) declared
      · exact .plain (by decide) (fun colon => absurd colon (by decide)) declared

theorem scans_flatMap_write {parts : List Part} (wellFormed : ∀ part ∈ parts, part.WellFormed) :
    Lexeme.Scans (parts.flatMap write) (parts.flatMap lexemes) [] := by
  induction parts with
  | nil => exact .rest []
  | cons part parts inductionHypothesis =>
      have each := List.forall_mem_cons.mp wellFormed
      have first := scans_write each.1 (endsBefore_write each.2)
      exact first.append (inductionHypothesis each.2)

end Part

namespace Template

/-- Escaped characters are held back. -/
private theorem assemble_escaped (text held : List Char) (rest : List Lexeme) :
    assemble held true (text.map (.char · true) ++ rest) =
      assemble (text.reverse ++ held) true rest := by
  induction text generalizing held with
  | nil => rfl
  | cons c text inductionHypothesis =>
      rw [List.reverse_cons, List.append_assoc]
      exact inductionHypothesis (c :: held)

theorem assemble_literal {text : String} (nonempty : text ≠ "") (escaped : Bool)
    (rest : List Lexeme) :
    assemble [] escaped ((Part.literal text).lexemes ++ rest) =
      assemble text.toList.reverse true rest := by
  rcases List.exists_cons_of_ne_nil (mt String.toList_eq_nil_iff.mp nonempty) with
    ⟨c, more, characters⟩
  rw [Part.lexemes, characters, List.reverse_cons]
  exact assemble_escaped more [c] rest

/-- A parameter takes over the separator that is written for it and nothing else, as long as what is
held back ends with an escaped character. -/
theorem assemble_param {key : Key} {separator : Option Char}
    (wellFormed : (Part.param key separator).WellFormed) {held : List Char} {escaped : Bool}
    (kept : held = [] ∨ escaped = true) (rest : List Lexeme) :
    assemble held escaped ((Part.param key separator).lexemes ++ rest) =
      flush held ++ .param key separator :: assemble [] false rest := by
  rcases wellFormed.2 with rfl | rfl | rfl
  · rcases kept with rfl | rfl
    · rfl
    · cases held <;> rfl
  · rfl
  · rfl

private theorem flush_reverse {text : String} (nonempty : text ≠ "") :
    flush text.toList.reverse = [.literal text] := by
  have someHeld : text.toList.reverse ≠ [] := by
    intro nothing
    exact nonempty (String.toList_eq_nil_iff.mp (List.reverse_eq_nil_iff.mp nothing))
  rcases List.exists_cons_of_ne_nil someHeld with ⟨c, before, held⟩
  rw [held]
  change [Part.literal (String.ofList (c :: before).reverse)] = _
  rw [← held, List.reverse_reverse, String.ofList_toList]

/-- The parts that were written are built again, behind what is held back. -/
theorem assemble_lexemes {parts : List Part} (wellFormed : ∀ part ∈ parts, part.WellFormed)
    (apart : parts.IsChain Part.MayPrecede) {held : List Char} {escaped : Bool}
    (kept : held = [] ∨ escaped = true ∧ ∀ text, .literal text ∉ parts.head?) :
    assemble held escaped (parts.flatMap Part.lexemes) = flush held ++ parts := by
  -- Characters are held back in front of a parameter or at the end, but never in front of a
  -- literal: that is what keeps two literals from running together.
  induction parts generalizing held escaped with
  | nil => exact (List.append_nil _).symm
  | cons part parts inductionHypothesis =>
      have each := List.forall_mem_cons.mp wellFormed
      have chain := List.isChain_cons.mp apart
      rw [List.flatMap_cons]
      cases part with
      | literal text =>
          have someText : text ≠ "" := each.1
          have noLiteral : ∀ other, .literal other ∉ parts.head? := fun other => chain.1 _
          rcases kept with rfl | ⟨-, absent⟩
          · have behind : assemble text.toList.reverse true (parts.flatMap Part.lexemes) =
                flush text.toList.reverse ++ parts :=
              inductionHypothesis each.2 chain.2 (Or.inr ⟨rfl, noLiteral⟩)
            rw [assemble_literal someText, behind, flush_reverse someText]
            rfl
          · exact absurd rfl (absent text)
      | param key separator =>
          rw [assemble_param each.1 (kept.imp_right And.left),
            inductionHypothesis each.2 chain.2 (Or.inl rfl)]
          rfl

theorem read_write {t : Template} (wellFormed : t.WellFormed) : read t.write = .ok t := by
  have nonempty : t.write ≠ "" := by
    intro empty
    rcases List.exists_cons_of_ne_nil wellFormed.nonempty with ⟨part, parts, split⟩
    have first : part ∈ t.parts := by
      rw [split]
      exact List.mem_cons_self
    rcases Part.exists_write (wellFormed.parts part first) with ⟨c, more, characters, -⟩
    rw [write, split, List.flatMap_cons, characters] at empty
    exact List.cons_ne_nil c _ (String.ofList_eq_empty_iff.mp empty)
  have scans : Lexeme.Scans t.write.toList (t.parts.flatMap Part.lexemes) [] := by
    rw [write, String.toList_ofList]
    exact Part.scans_flatMap_write wellFormed.parts
  have assembled : assemble [] false (t.parts.flatMap Part.lexemes) = t.parts :=
    assemble_lexemes wellFormed.parts wellFormed.apart (Or.inl rfl)
  have distinct : (Lexeme.names (t.parts.flatMap Part.lexemes)).Nodup := by
    rw [Lexeme.names, ← filterMap_assemble _ [] false, assembled]
    exact wellFormed.distinct
  rw [read_of_scans nonempty scans distinct, assembled]

/-- Every template that is read is well formed, and every well-formed template is read from the text
that is written for it. -/
theorem read_onto_wellFormed (t : Template) :
    (∀ text, read text = .ok t → t.WellFormed) ∧ (t.WellFormed → read t.write = .ok t) :=
  ⟨fun _ => wellFormed_of_read, read_write⟩

/-- A literal that consists of characters with a meaning, behind an optional parameter and in front
of two parameters that nothing keeps apart. -/
theorem read_onto_wellFormed_docs :
    let t : Template := ⟨[.param ⟨"lang", true⟩ (some '/'), .literal "/:é\\?",
      .param ⟨"id", false⟩ none, .param ⟨"ext", true⟩ (some '.')]⟩
    read "/:lang?/\\:é\\\\?:id.:ext?" = .ok t ∧ t.WellFormed ∧
      t.write = "/:lang?\\/\\:\\é\\\\\\?:id.:ext?" ∧ read t.write = .ok t := by
  intro t
  have ok : read "/:lang?/\\:é\\\\?:id.:ext?" = .ok t := by decide +kernel
  have wellFormed : t.WellFormed := by decide
  exact ⟨ok, (read_onto_wellFormed t).1 _ ok, by decide +kernel,
    (read_onto_wellFormed t).2 wellFormed⟩

end Template
end PathTemplate
