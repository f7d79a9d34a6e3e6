import PathTemplate.Proofs.Template.Faults
import PathTemplate.Route

namespace PathTemplate

/-!
# Reading a template without its final slash

A route keeps the text of its template without a slash at the end, and the slash is taken off before
the text is scanned.  Where the slash stands for itself, one character is missing from the scan, and
nothing else changes: no declaration ends with a slash, so the parameters are the same.  Where the
slash is escaped, the backslash in front of it is left with nothing to escape, and the text is
refused although it could be read as it was.
-/

namespace Lexeme

namespace Scans

/-- A text that ends with a declaration ends with a name character or a question mark. -/
private theorem last_of_declaration {key : Key} (isName : IsName key.name.toList)
    {before front : List Char} {c : Char} (split : before ++ [c] = front ++ key.declaration) :
    isNameChar c = true ∨ c = '?' := by
  have someCharacter : key.name.toList ++ key.mark ≠ [] :=
    List.append_ne_nil_of_left_ne_nil isName.nonempty _
  have last : some c = (key.name.toList ++ key.mark).getLast? := by
    have ends := congrArg List.getLast? split
    rwa [Key.declaration, List.getLast?_concat, List.append_cons,
      List.getLast?_append_of_ne_nil _ someCharacter] at ends
  rcases List.mem_append.mp (List.mem_of_getLast? last.symm) with inName | inMark
  · exact Or.inl (isName.plain c inName)
  · unfold Key.mark at inMark
    split at inMark
    · exact Or.inr (List.mem_singleton.mp inMark)
    · cases inMark

/-- The last character of a text stands for itself, or it is escaped, or it belongs to a
declaration. -/
theorem cut_last {before : List Char} {c : Char} {lexemes : List Lexeme}
    (scans : Scans (before ++ [c]) lexemes []) :
    (∃ first, lexemes = first ++ [.char c false] ∧ c ≠ '\\' ∧ Scans before first []) ∨
      (∃ first front, lexemes = first ++ [.char c true] ∧ before = front ++ ['\\'] ∧
        Scans front first []) ∨
      ∃ first key, lexemes = first ++ [.key key] ∧ (isNameChar c = true ∨ c = '?') := by
  rcases List.eq_nil_or_concat lexemes with rfl | ⟨first, last, rfl⟩
  · generalize text : before ++ [c] = cs at scans
    cases scans
    simp at text
  rw [List.concat_eq_append] at scans ⊢
  rcases scans.cut with ⟨middle, one, other⟩
  have nothing : ∀ d ∈ ([] : List Char).head?, d ∈ middle.head? ∨ isNameChar d = false ∧ d ≠ '?' :=
    nofun
  rcases one.exists_append_of_head nothing with ⟨front, split, shorter⟩
  rw [List.append_nil] at shorter
  cases other with
  | escaped d later =>
      cases later
      have ends : before ++ [c] = (front ++ ['\\']) ++ [d] := by
        rw [split, List.append_assoc]
        rfl
      rcases List.append_inj' ends rfl with ⟨rfl, same⟩
      cases same
      exact Or.inr (Or.inl ⟨first, front, rfl, rfl, shorter⟩)
  | plain noEscape _ later =>
      cases later
      rcases List.append_inj' split rfl with ⟨rfl, same⟩
      cases same
      exact Or.inl ⟨first, rfl, noEscape, shorter⟩
  | @declared key _ _ _ isName _ later =>
      cases later
      rw [List.append_nil] at split
      exact Or.inr (Or.inr ⟨first, key, rfl, last_of_declaration isName split⟩)

/-- Where a text can be scanned to its end, the backslashes there are pairs. -/
theorem even_of_backslashes {front : List Char} (noBackslash : front.getLast? ≠ some '\\')
    {count : Nat} {lexemes : List Lexeme}
    (scans : Scans (front ++ List.replicate count '\\') lexemes []) : count % 2 = 0 := by
  induction count using Nat.strongRecOn generalizing lexemes with
  | ind count inductionHypothesis =>
      cases count with
      | zero => rfl
      | succ count =>
          rw [List.replicate_succ', ← List.append_assoc] at scans
          rcases scans.cut_last with
            ⟨_, -, different, -⟩ | ⟨first, before, -, split, shorter⟩ | ⟨_, _, -, other⟩
          · exact absurd rfl different
          · cases count with
            | zero =>
                rw [List.replicate_zero, List.append_nil] at split
                rw [split, List.getLast?_concat] at noBackslash
                exact absurd rfl noBackslash
            | succ count =>
                rw [List.replicate_succ', ← List.append_assoc] at split
                rw [← List.append_cancel_right split] at shorter
                have even := inductionHypothesis count (by omega) shorter
                omega
          · exact absurd other (by decide)

end Scans
end Lexeme

/-- Every text ends with a number of occurrences of a given character, which may be zero. -/
private theorem exists_replicate_append (c : Char) (cs : List Char) :
    ∃ front count, cs = front ++ List.replicate count c ∧ front.getLast? ≠ some c := by
  induction cs using List.reverseRecOn with
  | nil => exact ⟨[], 0, rfl, nofun⟩
  | append_singleton cs last inductionHypothesis =>
      by_cases same : last = c
      · rcases inductionHypothesis with ⟨front, count, rfl, different⟩
        refine ⟨front, count + 1, ?_, different⟩
        rw [List.replicate_succ', List.append_assoc, same]
      · refine ⟨cs ++ [last], 0, (List.append_nil _).symm, ?_⟩
        rw [List.getLast?_concat]
        exact fun ends => same (Option.some.inj ends)

namespace Template

open Lexeme

/-- A text ends with a slash and an odd number of backslashes in front of it. -/
def EndsEscaped (text : String) : Prop :=
  ∃ front count, text.toList = front ++ List.replicate (2 * count + 1) '\\' ++ ['/'] ∧
    front.getLast? ≠ some '\\'

theorem normalize_of_getLast?_ne {text : String} (noSlash : text.toList.getLast? ≠ some '/') :
    normalize text = text := by
  unfold normalize dropFinalSlash
  rw [if_neg noSlash]
  split
  · rfl
  · rw [String.ofList_toList]

theorem normalize_append_slash {before : List Char} (nonempty : before ≠ []) :
    normalize (String.ofList (before ++ ['/'])) = String.ofList before := by
  unfold normalize dropFinalSlash
  rw [String.toList_ofList, List.getLast?_concat, if_pos rfl, List.dropLast_concat]
  cases before with
  | nil => exact absurd rfl nonempty
  | cons c more => rfl

theorem utf8ByteSize_append_slash (before : List Char) :
    (String.ofList (before ++ ['/'])).utf8ByteSize = (String.ofList before).utf8ByteSize + 1 := by
  rw [String.ofList_append, String.utf8ByteSize_append]
  rfl

/-! ## The backslashes in front of the slash -/

theorem not_endsEscaped {before : List Char} {lexemes : List Lexeme}
    (scans : Scans before lexemes []) : ¬ EndsEscaped (String.ofList (before ++ ['/'])) := by
  rintro ⟨front, count, ends, noBackslash⟩
  rw [String.toList_ofList] at ends
  rw [List.append_cancel_right ends] at scans
  have even := scans.even_of_backslashes noBackslash
  omega

theorem endsEscaped {front : List Char} {lexemes : List Lexeme} (scans : Scans front lexemes []) :
    EndsEscaped (String.ofList (front ++ ['\\'] ++ ['/'])) := by
  rcases exists_replicate_append '\\' front with ⟨start, count, rfl, noBackslash⟩
  have even := scans.even_of_backslashes noBackslash
  have odd : 2 * (count / 2) + 1 = count + 1 := by omega
  refine ⟨start, count / 2, ?_, noBackslash⟩
  rw [String.toList_ofList, odd, List.replicate_succ', List.append_assoc start]

theorem not_endsEscaped_of_getLast?_ne {text : String}
    (noSlash : text.toList.getLast? ≠ some '/') : ¬ EndsEscaped text := by
  rintro ⟨front, count, characters, -⟩
  rw [characters, List.getLast?_concat] at noSlash
  exact noSlash rfl

/-! ## Reading what is left -/

private theorem names_append_char (lexemes : List Lexeme) (c : Char) (escaped : Bool) :
    names (lexemes ++ [.char c escaped]) = names lexemes := by
  rw [names_append]
  exact List.append_nil _

/-- Without a slash that stands for itself, the text has the same declarations. -/
theorem read_of_scans_slash {before : List Char} {first : List Lexeme} (nonempty : before ≠ [])
    (scans : Scans before first []) (distinct : (names (first ++ [.char '/' false])).Nodup) :
    ∃ other, read (String.ofList before) = .ok other ∧
      other.keys = (first ++ [Lexeme.char '/' false]).filterMap declared := by
  have someText : String.ofList before ≠ "" := by
    intro empty
    exact nonempty (String.ofList_eq_empty_iff.mp empty)
  rw [names_append_char] at distinct
  refine ⟨⟨assemble [] false first⟩, ?_, ?_⟩
  · apply read_of_scans someText ?_ distinct
    rwa [String.toList_ofList]
  · rw [keys, filterMap_assemble, List.filterMap_append]
    exact (List.append_nil _).symm

/-- Without a slash that is escaped, the text ends with the backslash. -/
theorem read_of_scans_escaped {front : List Char} {first : List Lexeme}
    (scans : Scans front first []) (distinct : (names (first ++ [.char '/' true])).Nodup) :
    read (String.ofList (front ++ ['\\'])) =
      .error (.danglingEscape (String.ofList (front ++ ['\\'])).utf8ByteSize) := by
  have opens : ∀ c ∈ ['\\'].head?, c ∈ ([] : List Char).head? ∨
      isNameChar c = false ∧ c ≠ '?' := by
    rintro c ⟨⟩
    exact Or.inr (by decide)
  rcases scans.exists_append_of_head opens with ⟨start, same, dangling⟩
  rw [List.append_nil] at same
  rw [← same, ← @String.toList_ofList (front ++ ['\\'])] at dangling
  rw [names_append_char] at distinct
  exact read_of_firstFault (.danglingEscape dangling distinct)

/-- A text that can be read can be read without its final slash, with the same parameters, unless
that slash is escaped.  Then only the escape is left of it. -/
theorem read_normalize {text : String} {t : Template} (accepted : read text = .ok t) :
    (¬ EndsEscaped text ∧ ∃ other, read (normalize text) = .ok other ∧ other.keys = t.keys) ∨
      EndsEscaped text ∧
        read (normalize text) = .error (.danglingEscape (text.utf8ByteSize - 1)) := by
  rcases scans_of_read accepted with ⟨nonempty, lexemes, scans, distinct, parts⟩
  have declarations : t.keys = lexemes.filterMap declared := by
    rw [keys, parts, filterMap_assemble]
  by_cases slash : text.toList.getLast? = some '/'
  · rcases List.getLast?_eq_some_iff.mp slash with ⟨before, characters⟩
    have whole : text = String.ofList (before ++ ['/']) := by
      rw [← characters, String.ofList_toList]
    rw [characters] at scans
    rcases scans.cut_last with
      ⟨first, rfl, -, shorter⟩ | ⟨first, front, rfl, rfl, shorter⟩ | ⟨_, _, -, other⟩
    · left
      rw [whole]
      refine ⟨not_endsEscaped shorter, ?_⟩
      by_cases root : before = []
      · subst root
        rw [whole] at accepted
        exact ⟨t, accepted, rfl⟩
      · rw [normalize_append_slash root, declarations]
        exact read_of_scans_slash root shorter distinct
    · right
      have someCharacter : front ++ ['\\'] ≠ [] :=
        List.append_ne_nil_of_right_ne_nil _ (List.cons_ne_nil _ _)
      rw [whole, normalize_append_slash someCharacter, utf8ByteSize_append_slash,
        Nat.add_sub_cancel]
      exact ⟨endsEscaped shorter, read_of_scans_escaped shorter distinct⟩
    · exact absurd other (by decide)
  · left
    rw [normalize_of_getLast?_ne slash]
    exact ⟨not_endsEscaped_of_getLast?_ne slash, t, accepted, rfl⟩

end Template

namespace Route

variable {text : String} {caseSensitive : Bool}

theorem compile_eq_ok_iff {r : Route} :
    compile text caseSensitive = .ok r ↔ ∃ t, Template.read (Template.normalize text) = .ok t ∧
      r = ⟨Template.normalize text, t, caseSensitive⟩ := by
  unfold compile
  cases result : Template.read (Template.normalize text) with
  | error fault => simp [result]
  | ok t => simp [result, eq_comm]

/-- A template is refused for a fault of its text, and for nothing else. -/
theorem compile_eq_error_iff {e : Error} :
    compile text caseSensitive = .error e ↔
      ∃ fault, Template.read (Template.normalize text) = .error fault ∧
        e = .invalidTemplate fault := by
  unfold compile
  cases result : Template.read (Template.normalize text) with
  | error fault => simp [result, eq_comm]
  | ok t => simp [result]

theorem compile_eq_ok {r : Route} (compiled : compile text caseSensitive = .ok r) :
    Template.read r.source = .ok r.template ∧ r.caseSensitive = caseSensitive := by
  rcases compile_eq_ok_iff.mp compiled with ⟨t, ok, rfl⟩
  exact ⟨ok, rfl⟩

theorem isSeparator_of_compile {r : Route} (compiled : compile text caseSensitive = .ok r) :
    ∀ key c, .param key (some c) ∈ r.template.parts → Template.isSeparator c = true :=
  fun _ _ => Template.isSeparator_of_read (compile_eq_ok compiled).1

/-- A template that can be read is accepted exactly if it does not end with an escaped slash, and
then with the parameters it has as it is written.  With an escaped slash at the end it is refused
for the escape, which is all that is left of that slash. -/
theorem compile_iff_not_endsEscaped {t : Template} (accepted : Template.read text = .ok t)
    (caseSensitive : Bool) :
    ((∃ r, compile text caseSensitive = .ok r) ↔ ¬ Template.EndsEscaped text) ∧
    (∀ r, compile text caseSensitive = .ok r → r.keys = t.keys) ∧
    (Template.EndsEscaped text → compile text caseSensitive =
      .error (.invalidTemplate (.danglingEscape (text.utf8ByteSize - 1)))) := by
  rcases Template.read_normalize accepted with ⟨plain, other, ok, keys⟩ | ⟨escaped, refused⟩
  · have compiled : compile text caseSensitive =
        .ok ⟨Template.normalize text, other, caseSensitive⟩ :=
      compile_eq_ok_iff.mpr ⟨other, ok, rfl⟩
    refine ⟨⟨fun _ => plain, fun _ => ⟨_, compiled⟩⟩, ?_, fun escaped => absurd escaped plain⟩
    intro r compiledToo
    rw [compiled] at compiledToo
    cases compiledToo
    exact keys
  · have failed : compile text caseSensitive =
        .error (.invalidTemplate (.danglingEscape (text.utf8ByteSize - 1))) :=
      compile_eq_error_iff.mpr ⟨_, refused, rfl⟩
    refine ⟨⟨?_, fun plain => absurd escaped plain⟩, ?_, fun _ => failed⟩
    · rintro ⟨r, compiled⟩
      rw [failed] at compiled
      cases compiled
    · intro r compiled
      rw [failed] at compiled
      cases compiled

/-- Escaped backslashes in front of a slash leave it as it is. -/
theorem compile_iff_not_endsEscaped_pages :
    let t : Template := ⟨[.param ⟨"page", true⟩ (some '/'), .literal "\\/"]⟩
    Template.read "/:page?\\\\/" = .ok t ∧ ¬ Template.EndsEscaped "/:page?\\\\/" ∧
      ∃ r, compile "/:page?\\\\/" false = .ok r ∧ r.keys = t.keys := by
  intro t
  have accepted : Template.read "/:page?\\\\/" = .ok t := by decide +kernel
  have compiled : compile "/:page?\\\\/" false =
      .ok ⟨"/:page?\\\\", ⟨[.param ⟨"page", true⟩ (some '/'), .literal "\\"]⟩, false⟩ := by
    decide +kernel
  have outcome := compile_iff_not_endsEscaped accepted false
  exact ⟨accepted, outcome.1.mp ⟨_, compiled⟩, _, compiled, outcome.2.1 _ compiled⟩

/-- A template that can be read, and of which no route can be made. -/
theorem compile_error_of_escaped_slash :
    Template.read "/a\\/" = .ok ⟨[.literal "/a/"]⟩ ∧
      compile "/a\\/" false = .error (.invalidTemplate (.danglingEscape 3)) := by
  decide +kernel

end Route
end PathTemplate
