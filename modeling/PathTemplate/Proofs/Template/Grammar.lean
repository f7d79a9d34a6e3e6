import Mathlib.Algebra.GroupWithZero.Nat
import Mathlib.Data.String.Basic
import PathTemplate.Proofs.Text.Separator
import PathTemplate.Template.Lexeme

namespace PathTemplate

/-!
# The grammar of template text

Template text is read from the left, one unit after the other, and `Scans` says which units there
are and what is still to be read.  The rest is part of the judgment because a declaration is as long
as it can be: whether a text may be cut behind one depends on the character that follows.  So two
scans can be put together, and a scan can be cut where one of its units ends, without reading any
unit again.

The grammar is total but for one case.  Every text can be scanned to its end, or up to a backslash
with nothing behind it.
-/

/-- A name that a parameter can be declared under. -/
structure IsName (name : List Char) : Prop where
  nonempty : name ≠ []
  plain : ∀ c ∈ name, isNameChar c = true

instance : DecidablePred IsName := fun name =>
  decidable_of_iff (name ≠ [] ∧ name.all isNameChar = true)
    ⟨fun both => ⟨both.1, List.all_eq_true.mp both.2⟩,
      fun isName => ⟨isName.nonempty, List.all_eq_true.mpr isName.plain⟩⟩

namespace Key

/-- What marks the declaration of an optional parameter. -/
def mark (key : Key) : List Char :=
  if key.optional then ['?'] else []

/-- The declaration of a parameter, as it is written. -/
def declaration (key : Key) : List Char :=
  ':' :: (key.name.toList ++ key.mark)

/-- The declaration of a parameter is over in front of a text: the name does not go on there, and
the parameter is not marked as optional there.  Behind a mark, it is over in front of any text. -/
def EndsBefore (key : Key) (rest : List Char) : Prop :=
  key.optional = false → ∀ c ∈ rest.head?, isNameChar c = false ∧ c ≠ '?'

end Key

namespace Lexeme

/-! ## Declarations -/

/-- A declaration is read as far as it goes. -/
theorem readKey?_append {key : Key} {rest : List Char} (isName : IsName key.name.toList)
    (ends : key.EndsBefore rest) :
    readKey? (key.name.toList ++ (key.mark ++ rest)) = some (key, rest) := by
  cases key with
  | mk name optional =>
      cases optional with
      | true =>
          have stops : ∀ c ∈ ('?' :: rest).head?, isNameChar c = false := by
            rintro c ⟨⟩
            decide
          have span := span_append isName.plain stops
          change readKey? (name.toList ++ '?' :: rest) = _
          rw [readKey?, span.1, span.2, if_neg isName.nonempty]
          simp only [String.ofList_toList]
      | false =>
          have stops : ∀ c ∈ rest.head?, isNameChar c = false :=
            fun c member => (ends rfl c member).1
          have span := span_append isName.plain stops
          change readKey? (name.toList ++ rest) = _
          rw [readKey?, span.1, span.2, if_neg isName.nonempty]
          cases rest with
          | nil => simp only [String.ofList_toList]
          | cons c more =>
              have noMark : c ≠ '?' := (ends rfl c rfl).2
              simp only [String.ofList_toList]
              split
              · rename_i mark
                exact absurd (List.cons.inj mark).1 noMark
              · rfl

private theorem stops_dropWhile (cs : List Char) :
    ∀ c ∈ (cs.dropWhile isNameChar).head?, isNameChar c = false := by
  intro c member
  have stops := List.head?_dropWhile_not isNameChar cs
  rw [Option.mem_def.mp member] at stops
  exact stops

/-- What is read as a declaration is one. -/
theorem eq_of_readKey? {key : Key} {cs rest : List Char} (read : readKey? cs = some (key, rest)) :
    cs = key.name.toList ++ (key.mark ++ rest) ∧ IsName key.name.toList ∧
      key.EndsBefore rest := by
  have split : cs.takeWhile isNameChar ++ cs.dropWhile isNameChar = cs :=
    List.takeWhile_append_dropWhile
  have stops := stops_dropWhile cs
  unfold readKey? at read
  split at read
  · cases read
  · rename_i nonempty
    have isName : IsName (cs.takeWhile isNameChar) :=
      ⟨nonempty, List.all_eq_true.mp List.all_takeWhile⟩
    split at read
    · rename_i marked
      cases read
      rw [marked] at split
      rw [String.toList_ofList]
      exact ⟨split.symm, isName, nofun⟩
    · rename_i unmarked
      cases read
      rw [String.toList_ofList]
      refine ⟨split.symm, isName, fun _ c member => ⟨stops c member, ?_⟩⟩
      intro same
      rcases List.head?_eq_some_iff.mp (Option.mem_def.mp member) with ⟨more, characters⟩
      rw [same] at characters
      exact unmarked more characters

theorem readKey?_eq_none_iff {cs : List Char} :
    readKey? cs = none ↔ ∀ c ∈ cs.head?, isNameChar c = false := by
  constructor
  · intro nothing c member
    apply eq_false_of_ne_true
    intro first
    rcases List.head?_eq_some_iff.mp (Option.mem_def.mp member) with ⟨more, rfl⟩
    have nonempty : (c :: more).takeWhile isNameChar ≠ [] := by
      rw [List.takeWhile_cons_of_pos first]
      exact List.cons_ne_nil _ _
    rw [readKey?, if_neg nonempty] at nothing
    split at nothing <;> cases nothing
  · intro stops
    unfold readKey?
    apply if_pos
    exact (@span_append _ [] cs nofun stops).1

/-! ## Scanning -/

/-- How template text is read: what it consists of, and the rest that is not read yet. -/
inductive Scans : List Char → List Lexeme → List Char → Prop where
  /-- Nothing more is read. -/
  | rest (cs : List Char) : Scans cs [] cs
  /-- A backslash makes the next character literal, whatever that is. -/
  | escaped (c : Char) {cs rest : List Char} {lexemes : List Lexeme}
      (later : Scans cs lexemes rest) : Scans ('\\' :: c :: cs) (.char c true :: lexemes) rest
  /-- A colon in front of a name declares a parameter. -/
  | declared {key : Key} {cs rest : List Char} {lexemes : List Lexeme}
      (isName : IsName key.name.toList) (ends : key.EndsBefore cs)
      (later : Scans cs lexemes rest) :
      Scans (key.declaration ++ cs) (.key key :: lexemes) rest
  /-- Any other character stands for itself, and so does a colon without a name behind it. -/
  | plain {c : Char} {cs rest : List Char} {lexemes : List Lexeme} (noEscape : c ≠ '\\')
      (noName : c = ':' → ∀ d ∈ cs.head?, isNameChar d = false)
      (later : Scans cs lexemes rest) : Scans (c :: cs) (.char c false :: lexemes) rest

theorem scan_declaration {key : Key} {rest : List Char} (isName : IsName key.name.toList)
    (ends : key.EndsBefore rest) : scan (key.declaration ++ rest) = .key key :: scan rest := by
  have read := readKey?_append isName ends
  rw [Key.declaration, List.cons_append, List.append_assoc, scan]
  split
  · rename_i other after found
    rw [read] at found
    cases found
    rfl
  · rename_i nothing
    rw [read] at nothing
    cases nothing

theorem scan_plain {c : Char} {rest : List Char} (noEscape : c ≠ '\\')
    (noName : c = ':' → ∀ d ∈ rest.head?, isNameChar d = false) :
    scan (c :: rest) = .char c false :: scan rest := by
  by_cases colon : c = ':'
  · have nothing := readKey?_eq_none_iff.mpr (noName colon)
    rw [colon, scan]
    split
    · rename_i found
      rw [nothing] at found
      cases found
    · rfl
  · exact scan.eq_5 c rest (fun same _ => noEscape same) (fun _ _ same _ => noEscape same) colon

/-- A declaration takes as many bytes as its lexeme. -/
theorem utf8Len_declaration (k : Key) : String.utf8Len k.declaration = (key k).width := by
  rw [Key.declaration, String.utf8Len_cons, String.utf8Len_append, String.utf8Len_toList, Key.mark,
    width]
  have one : ':'.utf8Size = 1 := rfl
  have mark : String.utf8Len ['?'] = 1 := rfl
  split
  · omega
  · rw [String.utf8Len_nil]
    omega

namespace Scans

/-- The function that cuts text into lexemes reads what the grammar says. -/
theorem scan_eq {cs rest : List Char} {lexemes : List Lexeme} (scans : Scans cs lexemes rest) :
    scan cs = lexemes ++ scan rest := by
  induction scans with
  | rest cs => rfl
  | escaped c _ inductionHypothesis =>
      rw [scan, inductionHypothesis]
      rfl
  | declared isName ends _ inductionHypothesis =>
      rw [scan_declaration isName ends, inductionHypothesis]
      rfl
  | plain noEscape noName _ inductionHypothesis =>
      rw [scan_plain noEscape noName, inductionHypothesis]
      rfl

/-- A scan to the end of the text goes on from any other scan. -/
theorem eq_append {cs rest : List Char} {lexemes others : List Lexeme}
    (scans : Scans cs lexemes []) (partly : Scans cs others rest) :
    lexemes = others ++ scan rest := by
  have whole := scans.scan_eq
  rw [partly.scan_eq, scan, List.append_nil] at whole
  exact whole.symm

/-- A text is scanned to its end in one way. -/
theorem unique {cs : List Char} {lexemes others : List Lexeme} (scans : Scans cs lexemes [])
    (scansToo : Scans cs others []) : others = lexemes := by
  have whole := scans.eq_append scansToo
  rw [scan, List.append_nil] at whole
  exact whole.symm

theorem not_mem_danglingEscape {cs rest : List Char} {lexemes : List Lexeme}
    (scans : Scans cs lexemes rest) : .danglingEscape ∉ lexemes := by
  induction scans with
  | rest cs => exact List.not_mem_nil
  | escaped c _ inductionHypothesis =>
      exact List.not_mem_cons_of_ne_of_not_mem nofun inductionHypothesis
  | declared _ _ _ inductionHypothesis =>
      exact List.not_mem_cons_of_ne_of_not_mem nofun inductionHypothesis
  | plain _ _ _ inductionHypothesis =>
      exact List.not_mem_cons_of_ne_of_not_mem nofun inductionHypothesis

theorem isName {cs rest : List Char} {lexemes : List Lexeme} {k : Key}
    (scans : Scans cs lexemes rest) (member : key k ∈ lexemes) : IsName k.name.toList := by
  induction scans with
  | rest cs => cases member
  | escaped c _ inductionHypothesis =>
      rcases List.mem_cons.mp member with same | later
      · cases same
      · exact inductionHypothesis later
  | declared isName _ _ inductionHypothesis =>
      rcases List.mem_cons.mp member with same | later
      · cases same
        exact isName
      · exact inductionHypothesis later
  | plain _ _ _ inductionHypothesis =>
      rcases List.mem_cons.mp member with same | later
      · cases same
      · exact inductionHypothesis later

theorem append {cs middle rest : List Char} {first second : List Lexeme}
    (one : Scans cs first middle) (other : Scans middle second rest) :
    Scans cs (first ++ second) rest := by
  induction one with
  | rest cs => exact other
  | escaped c _ inductionHypothesis => exact .escaped c (inductionHypothesis other)
  | declared isName ends _ inductionHypothesis =>
      exact .declared isName ends (inductionHypothesis other)
  | plain noEscape noName _ inductionHypothesis =>
      exact .plain noEscape noName (inductionHypothesis other)

/-- A scan may be interrupted behind each of its lexemes. -/
theorem cut {cs rest : List Char} {first second : List Lexeme}
    (scans : Scans cs (first ++ second) rest) :
    ∃ middle, Scans cs first middle ∧ Scans middle second rest := by
  induction first generalizing cs with
  | nil => exact ⟨cs, .rest cs, scans⟩
  | cons lexeme first inductionHypothesis =>
      cases scans with
      | escaped c later =>
          rcases inductionHypothesis later with ⟨middle, one, other⟩
          exact ⟨middle, .escaped c one, other⟩
      | declared isName ends later =>
          rcases inductionHypothesis later with ⟨middle, one, other⟩
          exact ⟨middle, .declared isName ends one, other⟩
      | plain noEscape noName later =>
          rcases inductionHypothesis later with ⟨middle, one, other⟩
          exact ⟨middle, .plain noEscape noName one, other⟩

/-- A scan does not look further than one character into the rest, and only to see that a
declaration is over.  So it is the same in front of another rest that begins alike, of one that
begins with a character no declaration goes on with, or of none at all. -/
theorem exists_append_of_head {cs rest : List Char} {lexemes : List Lexeme}
    (scans : Scans cs lexemes rest) {other : List Char}
    (alike : ∀ c ∈ other.head?, c ∈ rest.head? ∨ isNameChar c = false ∧ c ≠ '?') :
    ∃ front, cs = front ++ rest ∧ Scans (front ++ other) lexemes other := by
  have starts (front : List Char) : ∀ c ∈ (front ++ other).head?,
      c ∈ (front ++ rest).head? ∨ isNameChar c = false ∧ c ≠ '?' := by
    cases front with
    | nil => exact alike
    | cons d front => exact fun c member => Or.inl member
  induction scans with
  | rest cs => exact ⟨[], rfl, .rest other⟩
  | escaped c _ inductionHypothesis =>
      rcases inductionHypothesis alike starts with ⟨front, rfl, scans⟩
      exact ⟨'\\' :: c :: front, rfl, .escaped c scans⟩
  | @declared key _ _ _ isName ends _ inductionHypothesis =>
      rcases inductionHypothesis alike starts with ⟨front, rfl, scans⟩
      refine ⟨key.declaration ++ front, (List.append_assoc _ _ _).symm, ?_⟩
      rw [List.append_assoc]
      apply Scans.declared isName ?_ scans
      intro required c member
      exact (starts front c member).elim (ends required c) id
  | plain noEscape noName _ inductionHypothesis =>
      rcases inductionHypothesis alike starts with ⟨front, rfl, scans⟩
      refine ⟨_ :: front, rfl, Scans.plain noEscape ?_ scans⟩
      intro colon d member
      exact (starts front d member).elim (noName colon d) And.left

/-- What is still to be read is the end of the text. -/
theorem exists_append {cs rest : List Char} {lexemes : List Lexeme}
    (scans : Scans cs lexemes rest) : ∃ front, cs = front ++ rest := by
  rcases scans.exists_append_of_head (fun _ first => Or.inl first) with ⟨front, split, -⟩
  exact ⟨front, split⟩

/-- The bytes that were read are the bytes of the lexemes. -/
theorem utf8Len_eq {cs rest : List Char} {lexemes : List Lexeme} (scans : Scans cs lexemes rest) :
    String.utf8Len cs = (lexemes.map width).sum + String.utf8Len rest := by
  induction scans with
  | rest cs => rw [List.map_nil, List.sum_nil, Nat.zero_add]
  | escaped c _ inductionHypothesis =>
      have one : '\\'.utf8Size = 1 := rfl
      simp only [List.map_cons, List.sum_cons, String.utf8Len_cons, inductionHypothesis, width,
        if_true]
      omega
  | declared isName ends _ inductionHypothesis =>
      rw [List.map_cons, List.sum_cons, String.utf8Len_append, utf8Len_declaration,
        inductionHypothesis]
      omega
  | plain noEscape noName _ inductionHypothesis =>
      simp only [List.map_cons, List.sum_cons, String.utf8Len_cons, inductionHypothesis, width,
        Bool.false_eq_true, if_false]
      omega

end Scans

/-- Every text can be scanned up to its end, or up to a backslash there. -/
theorem exists_scans (cs : List Char) :
    ∃ lexemes rest, Scans cs lexemes rest ∧ (rest = [] ∨ rest = ['\\']) := by
  induction cs using scan.induct with
  | case1 => exact ⟨[], [], .rest [], Or.inl rfl⟩
  | case2 => exact ⟨[], _, .rest _, Or.inr rfl⟩
  | case3 c cs inductionHypothesis =>
      rcases inductionHypothesis with ⟨lexemes, rest, scans, ends⟩
      exact ⟨_, rest, .escaped c scans, ends⟩
  | case4 cs key after read _ inductionHypothesis =>
      rcases inductionHypothesis with ⟨lexemes, rest, scans, atEnd⟩
      rcases eq_of_readKey? read with ⟨split, isName, ends⟩
      have declares : ':' :: cs = key.declaration ++ after := by
        rw [split, Key.declaration, List.cons_append, List.append_assoc]
      rw [declares]
      exact ⟨_, rest, .declared isName ends scans, atEnd⟩
  | case5 cs nothing inductionHypothesis =>
      rcases inductionHypothesis with ⟨lexemes, rest, scans, ends⟩
      have noName := readKey?_eq_none_iff.mp nothing
      exact ⟨_, rest, .plain (by decide) (fun _ => noName) scans, ends⟩
  | case6 c cs notLast notEscaping notColon inductionHypothesis =>
      rcases inductionHypothesis with ⟨lexemes, rest, scans, ends⟩
      have noEscape : c ≠ '\\' := by
        intro same
        cases cs with
        | nil => exact notLast same rfl
        | cons next more => exact notEscaping next more same rfl
      exact ⟨_, rest, .plain noEscape (fun colon => absurd colon notColon) scans, ends⟩

end Lexeme
end PathTemplate
