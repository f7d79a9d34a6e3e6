import PathTemplate.Error
import PathTemplate.Template.Basic

/-!
The units of template text.  A backslash makes the next character literal, a colon before a name
character declares a parameter, and every other character stands for itself.

`Lexeme.scan` never fails: what is wrong with a text is a property of its lexemes, found by
`Lexeme.firstFault`, which walks them from the left and counts the bytes they take.
-/

namespace PathTemplate

/-- The characters of a parameter's name: ASCII letters and digits, and the underscore. -/
def isNameChar (c : Char) : Bool :=
  c.isAlphanum || c == '_'

/-- One unit of template text. -/
inductive Lexeme where
  /-- A character of literal text, written with a backslash in front when `escaped`. -/
  | char (c : Char) (escaped : Bool)
  /-- The declaration of a parameter. -/
  | key (key : Key)
  /-- A backslash at the end of the text. -/
  | danglingEscape
deriving DecidableEq, Repr

namespace Lexeme

/-- The number of UTF-8 bytes a lexeme takes in the text. -/
def width : Lexeme → Nat
  | char c escaped => (if escaped then 1 else 0) + c.utf8Size
  | key k => 1 + k.name.utf8ByteSize + (if k.optional then 1 else 0)
  | danglingEscape => 1

/-- Read the declaration that follows a colon: the longest run of name characters, and a question
mark directly after it.  There is none when the first character is no name character. -/
def readKey? (cs : List Char) : Option (Key × List Char) :=
  if cs.takeWhile isNameChar = [] then none
  else
    let name := String.ofList (cs.takeWhile isNameChar)
    match cs.dropWhile isNameChar with
    | '?' :: rest => some (⟨name, true⟩, rest)
    | rest => some (⟨name, false⟩, rest)

theorem readKey?_length {cs rest : List Char} {k : Key} (declared : readKey? cs = some (k, rest)) :
    rest.length < cs.length := by
  have divided :
      (cs.takeWhile isNameChar).length + (cs.dropWhile isNameChar).length = cs.length := by
    rw [← List.length_append, List.takeWhile_append_dropWhile]
  unfold readKey? at declared
  split at declared
  · contradiction
  · rename_i named
    have namePositive := List.length_pos_iff.mpr named
    split at declared <;> simp_all <;> omega

def scan : List Char → List Lexeme
  | [] => []
  | ['\\'] => [.danglingEscape]
  | '\\' :: c :: rest => .char c true :: scan rest
  | ':' :: rest =>
      match declared : readKey? rest with
      | some (k, after) =>
          have : after.length < rest.length := readKey?_length declared
          .key k :: scan after
      | none => .char ':' false :: scan rest
  | c :: rest => .char c false :: scan rest
termination_by cs => cs.length

/-- The first fault from the left, where `seen` holds the names declared so far and `position` the
bytes already read. -/
def firstFault (seen : List String) (position : Nat) : List Lexeme → Option TemplateFault
  | [] => none
  | lexeme :: rest =>
      let after := position + lexeme.width
      match lexeme with
      | char _ _ => firstFault seen after rest
      | key k =>
          if k.name ∈ seen then some (.repeatedName k.name after)
          else firstFault (k.name :: seen) after rest
      | danglingEscape => some (.danglingEscape after)

end Lexeme
end PathTemplate
