import PathTemplate.Template.Reader

namespace PathTemplate

/-!
# What reading a template guarantees

The parts of a template declare the parameters of its lexemes, in the same order: building the parts
moves separators between literals and parameters but neither drops nor moves a declaration.  Since a
text whose lexemes repeat a name is refused, the names of a template are distinct.
-/

namespace Lexeme

/-- The parameter a lexeme declares, if it declares one. -/
def declared : Lexeme → Option Key
  | char _ _ => none
  | key k => some k
  | danglingEscape => none

/-- Lexemes without a fault declare distinct names, none of them seen before. -/
theorem nodup_of_firstFault_eq_none {lexemes : List Lexeme} {seen : List String} {position : Nat}
    (faultless : firstFault seen position lexemes = none) :
    ((lexemes.filterMap declared).map Key.name).Nodup ∧
      ∀ name ∈ seen, name ∉ (lexemes.filterMap declared).map Key.name := by
  induction lexemes generalizing seen position with
  | nil => exact ⟨List.nodup_nil, fun _ _ => List.not_mem_nil⟩
  | cons lexeme rest inductionHypothesis =>
      cases lexeme with
      | char c escaped => exact inductionHypothesis faultless
      | danglingEscape => cases faultless
      | key k =>
          rw [firstFault] at faultless
          by_cases repeated : k.name ∈ seen
          · rw [if_pos repeated] at faultless
            cases faultless
          · rw [if_neg repeated] at faultless
            have later := inductionHypothesis faultless
            have names : (key k :: rest).filterMap declared = k :: rest.filterMap declared := rfl
            rw [names, List.map_cons]
            refine ⟨List.nodup_cons.mpr ⟨later.2 _ List.mem_cons_self, later.1⟩, ?_⟩
            intro name member listed
            rcases List.mem_cons.mp listed with same | further
            · exact repeated (same ▸ member)
            · exact later.2 name (List.mem_cons_of_mem _ member) further

end Lexeme

namespace Template

/-- Only a slash is ever dropped. -/
theorem dropFinalSlash_append (cs : List Char) :
    cs = dropFinalSlash cs ∨ cs = dropFinalSlash cs ++ ['/'] := by
  rw [dropFinalSlash]
  by_cases slash : cs.getLast? = some '/'
  · rw [if_pos slash]
    rcases List.getLast?_eq_some_iff.mp slash with ⟨before, rfl⟩
    rw [List.dropLast_concat]
    exact Or.inr rfl
  · rw [if_neg slash]
    exact Or.inl rfl

private theorem filterMap_flush (held : List Char) : (flush held).filterMap Part.key? = [] := by
  cases held <;> rfl

theorem eq_slash_or_dot {c : Char} (separates : isSeparator c = true) : c = '/' ∨ c = '.' := by
  rwa [isSeparator, Bool.or_eq_true, beq_iff_eq, beq_iff_eq] at separates

/-- A declaration takes over the last of the characters that are held back, or none of them, and all
others become a literal in front of it. -/
theorem assemble_key (held : List Char) (escaped : Bool) (k : Key) :
    ∃ before separator, held = separator.toList ++ before ∧
      (∀ c, separator = some c → isSeparator c = true) ∧
      ∀ rest, assemble held escaped (.key k :: rest) =
        flush before ++ .param k separator :: assemble [] false rest := by
  cases escaped with
  | true => exact ⟨held, none, rfl, nofun, fun _ => by cases held <;> rfl⟩
  | false =>
      cases held with
      | nil => exact ⟨[], none, rfl, nofun, fun _ => rfl⟩
      | cons c before =>
          by_cases separates : isSeparator c = true
          · refine ⟨before, some c, rfl, ?_, fun _ => if_pos separates⟩
            intro other same
            cases same
            exact separates
          · exact ⟨c :: before, none, rfl, nofun, fun _ => if_neg separates⟩

/-- What is read first decides on parts, and on what is held back in front of the rest. -/
theorem exists_assemble_append (lexemes : List Lexeme) (held : List Char) (escaped : Bool) :
    ∃ parts kept last, ∀ rest,
      assemble held escaped (lexemes ++ rest) = parts ++ assemble kept last rest := by
  induction lexemes generalizing held escaped with
  | nil => exact ⟨[], held, escaped, fun _ => rfl⟩
  | cons lexeme lexemes inductionHypothesis =>
      cases lexeme with
      | char c e => exact inductionHypothesis (c :: held) e
      | danglingEscape => exact inductionHypothesis held escaped
      | key k =>
          rcases assemble_key held escaped k with ⟨before, separator, -, -, first⟩
          rcases inductionHypothesis [] false with ⟨parts, kept, last, later⟩
          refine ⟨flush before ++ .param k separator :: parts, kept, last, ?_⟩
          intro rest
          rw [List.cons_append, first, later, List.append_assoc, List.cons_append]

theorem filterMap_assemble (lexemes : List Lexeme) (held : List Char) (escaped : Bool) :
    (assemble held escaped lexemes).filterMap Part.key? = lexemes.filterMap Lexeme.declared := by
  induction lexemes generalizing held escaped with
  | nil => exact filterMap_flush held
  | cons lexeme rest inductionHypothesis =>
      cases lexeme with
      | char c e => exact inductionHypothesis (c :: held) e
      | danglingEscape => exact inductionHypothesis held escaped
      | key k =>
          rcases assemble_key held escaped k with ⟨before, separator, -, -, parts⟩
          rw [parts, List.filterMap_append, filterMap_flush, List.nil_append]
          exact congrArg (k :: ·) (inductionHypothesis [] false)

/-- The only separators a parameter takes over are slashes and dots. -/
theorem isSeparator_of_mem_assemble {lexemes : List Lexeme} {held : List Char} {escaped : Bool}
    {key : Key} {c : Char} (member : .param key (some c) ∈ assemble held escaped lexemes) :
    isSeparator c = true := by
  have notFlushed (before : List Char) : .param key (some c) ∉ flush before := by
    cases before <;> simp [flush]
  induction lexemes generalizing held escaped with
  | nil => exact absurd member (notFlushed held)
  | cons lexeme rest inductionHypothesis =>
      cases lexeme with
      | char d e => exact inductionHypothesis member
      | danglingEscape => exact inductionHypothesis member
      | key k =>
          rcases assemble_key held escaped k with ⟨before, separator, -, separates, parts⟩
          rw [parts] at member
          rcases List.mem_append.mp member with flushed | later
          · exact absurd flushed (notFlushed before)
          · rcases List.mem_cons.mp later with same | further
            · cases same
              exact separates c rfl
            · exact inductionHypothesis further

private theorem read_eq_ok {text : String} {t : Template} (ok : read text = .ok t) :
    Lexeme.firstFault [] 0 (Lexeme.scan text.toList) = none ∧
      t.parts = assemble [] false (Lexeme.scan text.toList) := by
  rw [read] at ok
  split at ok
  · cases ok
  · split at ok
    · cases ok
    · rename_i faultless
      cases ok
      exact ⟨faultless, rfl⟩

/-- The names a template declares are distinct. -/
theorem nodup_names_of_read {text : String} {t : Template} (ok : read text = .ok t) :
    (t.keys.map Key.name).Nodup := by
  have parts := read_eq_ok ok
  rw [keys, parts.2, filterMap_assemble]
  exact (Lexeme.nodup_of_firstFault_eq_none parts.1).1

theorem isSeparator_of_read {text : String} {t : Template} (ok : read text = .ok t) {key : Key}
    {c : Char} (member : .param key (some c) ∈ t.parts) : isSeparator c = true := by
  rw [(read_eq_ok ok).2] at member
  exact isSeparator_of_mem_assemble member

end Template
end PathTemplate
