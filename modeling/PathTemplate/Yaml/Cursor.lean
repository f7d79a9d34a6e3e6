/-!
A place in YAML text.  The structure of a document hangs on columns, and implicit keys are limited
to one line, so a cursor counts lines and columns as it moves.
-/

namespace PathTemplate
namespace Yaml

/-- Whether a character may occur in a document at all. -/
def isAllowed (c : Char) : Bool :=
  let n := c.toNat
  n == 0x09 || n == 0x0A || n == 0x0D || (0x20 ≤ n && n ≤ 0x7E) || n == 0x85 ||
    (0xA0 ≤ n && n ≤ 0xFFFD) || 0x10000 ≤ n

def isBreak (c : Char) : Bool :=
  c == '\n' || c == '\r' || c == '\u0085' || c == '\u2028' || c == '\u2029'

def isBlankChar (c : Char) : Bool :=
  c == ' ' || c == '\t'

/-- Whether a character is white space: a space, a tab, or a line break. -/
def isSpaceChar (c : Char) : Bool :=
  isBlankChar c || isBreak c

/-- Whether a character may be in a directive's name, an anchor, or a tag's handle. -/
def isWordChar (c : Char) : Bool :=
  c.isAlphanum || c == '_' || c == '-'

/-- What is left to read, the number of characters read, and the place in lines and columns. -/
structure Cursor where
  rest : List Char
  index : Nat
  line : Nat
  column : Nat

namespace Cursor

def ofText (cs : List Char) : Cursor :=
  ⟨cs, 0, 0, 0⟩

def head? (c : Cursor) : Option Char :=
  c.rest.head?

def isAt (c : Cursor) (x : Char) : Bool :=
  c.rest.head? == some x

def atEnd (c : Cursor) : Bool :=
  c.rest.isEmpty

def atBlank (c : Cursor) : Bool :=
  c.rest.head?.any isBlankChar

def atBreak (c : Cursor) : Bool :=
  c.rest.head?.any isBreak

def atLineEnd (c : Cursor) : Bool :=
  c.rest.head?.all isBreak

def atSpace (c : Cursor) : Bool :=
  c.rest.head?.all isSpaceChar

/-- Pass over some characters of the same line. -/
def skip (c : Cursor) (n : Nat) : Cursor :=
  ⟨c.rest.drop n, c.index + n, c.line, c.column + n⟩

/-- Pass over a run of characters of the same line. -/
def skipWhile (c : Cursor) (p : Char → Bool) : Cursor :=
  c.skip (c.rest.takeWhile p).length

/-- Read a line break, as it counts in a scalar: the line separators of Unicode are kept, and every
other break is a line feed.  Where there is no break, nothing is read. -/
def readBreak (c : Cursor) : List Char × Cursor :=
  match c.rest with
  | '\r' :: '\n' :: rest => (['\n'], ⟨rest, c.index + 2, c.line + 1, 0⟩)
  | x :: rest =>
      if x == '\u2028' || x == '\u2029' then ([x], ⟨rest, c.index + 1, c.line + 1, 0⟩)
      else if isBreak x then (['\n'], ⟨rest, c.index + 1, c.line + 1, 0⟩)
      else ([], c)
  | [] => ([], c)

def skipBreak (c : Cursor) : Cursor :=
  c.readBreak.2

/-- Pass over blanks and a comment to the end of the line.  Anything else on it is refused. -/
def skipLineEnd? (c : Cursor) : Option Cursor :=
  let c := c.skipWhile isBlankChar
  let c := if c.isAt '#' then c.skipWhile (fun x => !isBreak x) else c
  if c.atLineEnd then some c.skipBreak else none

/-- Whether the marker of a document's start or end, three times `x`, is here. -/
def atMarker (c : Cursor) (x : Char) : Bool :=
  c.column == 0 && c.rest.take 3 == [x, x, x] && (c.rest.drop 3).head?.all isSpaceChar

def atDocumentMarker (c : Cursor) : Bool :=
  c.atMarker '-' || c.atMarker '.'

end Cursor
end Yaml
end PathTemplate
