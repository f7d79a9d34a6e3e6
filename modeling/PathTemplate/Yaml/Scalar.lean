import PathTemplate.Text.Percent
import PathTemplate.Yaml.Cursor

/-!
The ways to write a scalar: plain, in single or double quotes, and as a block of lines that are kept
or folded.  Each reader takes the cursor at the scalar's first character, or behind it where that is
an indicator, and gives the scalar's text and the cursor behind it; it fails on a malformed scalar.

`fuel` bounds the number of lines or stretches that a reader goes through; the length of the text is
always enough.
-/

namespace PathTemplate
namespace Yaml

inductive Style where
  | plain
  | singleQuoted
  | doubleQuoted
  /-- A block whose lines are kept. -/
  | literal
  /-- A block whose lines are folded. -/
  | folded
deriving DecidableEq, Repr

/-- The white space between two stretches of a scalar: the blanks before the first line break, that
break, and the breaks after it.  `broken` tells whether the line was broken at all, which an escaped
break does without leaving one. -/
structure Gap where
  blanks : List Char
  firstBreak : List Char
  moreBreaks : List Char
  broken : Bool

namespace Gap

def empty : Gap :=
  ⟨[], [], [], false⟩

/-- What is left of a gap: blanks within a line stay, a single line feed becomes a space, and of
several the first goes. -/
def fold (g : Gap) : List Char :=
  if g.broken then
    if g.firstBreak = ['\n'] then
      if g.moreBreaks = [] then [' '] else g.moreBreaks
    else g.firstBreak ++ g.moreBreaks
  else g.blanks

/-- Read white space into a gap.  On a line after the first, a tab to the left of column `indent` is
refused. -/
def read? (indent : Nat) (g : Gap) (c : Cursor) : Nat → Option (Gap × Cursor)
  | 0 => some (g, c)
  | fuel + 1 =>
      match c.head? with
      | none => some (g, c)
      | some x =>
          if isBlankChar x then
            if g.broken then
              if x == '\t' && c.column < indent then none
              else read? indent g (c.skip 1) fuel
            else read? indent { g with blanks := g.blanks ++ [x] } (c.skip 1) fuel
          else if isBreak x then
            let (text, next) := c.readBreak
            if g.broken then
              read? indent { g with moreBreaks := g.moreBreaks ++ text } next fuel
            else
              read? indent { g with blanks := [], firstBreak := text, broken := true } next fuel
          else some (g, c)

end Gap

/-- The indicators that end a plain scalar within brackets or braces. -/
def isFlowIndicator (c : Char) : Bool :=
  c == ',' || c == '[' || c == ']' || c == '\x7b' || c == '\x7d'

namespace Plain

/-- The stretch of a plain scalar up to white space or an indicator.  Within brackets or braces, a
colon directly before an indicator is refused. -/
def stretch? (flow : Bool) : List Char → Option (List Char)
  | [] => some []
  | x :: rest =>
      if isSpaceChar x then some []
      else if flow && x == ':' && rest.head?.any (fun y => isFlowIndicator y || y == '?') then none
      else if (x == ':' && rest.head?.all isSpaceChar) || (flow && isFlowIndicator x) then some []
      else (stretch? flow rest).map (x :: ·)

/-- Read the rest of a plain scalar, with the text so far and the gap behind it.  Outside brackets
and braces the scalar ends with the line if the next one is not indented to `indent`.  The answer
tells whether a line was broken after the scalar. -/
def readFrom? (flow : Bool) (indent : Nat) (text : List Char) (gap : Gap) (c : Cursor) :
    Nat → Option (List Char × Bool × Cursor)
  | 0 => none
  | fuel + 1 =>
      if c.atDocumentMarker || c.isAt '#' then some (text, gap.broken, c)
      else
        match stretch? flow c.rest with
        | none => none
        | some [] => some (text, gap.broken, c)
        | some run =>
            let text := text ++ gap.fold ++ run
            let c := c.skip run.length
            if !c.rest.head?.any isSpaceChar then some (text, false, c)
            else
              match Gap.empty.read? indent c c.rest.length with
              | none => none
              | some (gap, c) =>
                  if !flow && c.column < indent then some (text, gap.broken, c)
                  else readFrom? flow indent text gap c fuel

def read? (flow : Bool) (indent : Nat) (c : Cursor) : Option (List Char × Bool × Cursor) :=
  readFrom? flow indent [] Gap.empty c (c.rest.length + 1)

end Plain

namespace Quoted

/-- The characters written by a backslash and a single character. -/
def escapes : List (Char × Char) :=
  [('0', '\x00'), ('a', '\x07'), ('b', '\x08'), ('t', '\t'), ('\t', '\t'), ('n', '\n'),
    ('v', '\x0b'), ('f', '\x0c'), ('r', '\r'), ('e', '\x1b'), (' ', ' '), ('"', '"'), ('/', '/'),
    ('\\', '\\'), ('N', '\u0085'), ('_', '\u00a0'), ('L', '\u2028'), ('P', '\u2029')]

/-- The number of hexadecimal digits behind a backslash and a letter. -/
def codeLength? (c : Char) : Option Nat :=
  if c = 'x' then some 2 else if c = 'u' then some 4 else if c = 'U' then some 8 else none

/-- The character that the escape behind a backslash stands for, and its length. -/
def escape? : List Char → Option (Char × Nat)
  | [] => none
  | c :: rest =>
      match escapes.lookup c, codeLength? c with
      | some x, _ => some (x, 1)
      | none, none => none
      | none, some n =>
          match (rest.take n).mapM Percent.hexValue? with
          | none => none
          | some digits =>
              let code := digits.foldl (fun n d => 16 * n + d) 0
              if digits.length = n && code.isValidChar then some (Char.ofNat code, n + 1) else none

/-- What ends a stretch of a quoted scalar. -/
inductive Stop where
  | quote
  | space
  | escapedBreak

/-- The stretch of a quoted scalar up to white space, an escaped line break, or the closing quote:
its text, its length, and what ends it. -/
def stretch? (single : Bool) : Nat → List Char → Option (List Char × Nat × Stop)
  | 0, _ => none
  | _, [] => some ([], 0, .space)
  | fuel + 1, x :: rest =>
      let more := fun (text : Char) (width : Nat) =>
        (stretch? single fuel (rest.drop (width - 1))).map
          (fun s => (text :: s.1, width + s.2.1, s.2.2))
      if isSpaceChar x then some ([], 0, .space)
      else if single then
        if x == '\'' then
          if rest.head? == some '\'' then more '\'' 2 else some ([], 0, .quote)
        else more x 1
      else if x == '"' then some ([], 0, .quote)
      else if x == '\\' then
        if rest.head?.any isBreak then some ([], 1, .escapedBreak)
        else
          match escape? rest with
          | some (y, width) => more y (width + 1)
          | none => none
      else more x 1

/-- Read the rest of a quoted scalar behind its opening quote, with the text so far. -/
def readFrom? (single : Bool) (text : List Char) (c : Cursor) :
    Nat → Option (List Char × Cursor)
  | 0 => none
  | fuel + 1 =>
      if c.atDocumentMarker || c.atEnd then none
      else
        match stretch? single (c.rest.length + 1) c.rest with
        | none => none
        | some (run, width, .quote) => some (text ++ run, c.skip (width + 1))
        | some (run, width, stop) =>
            let after := c.skip width
            let start :=
              match stop with
              | .escapedBreak => ({ Gap.empty with broken := true }, after.skipBreak)
              | _ => (Gap.empty, after)
            match start.1.read? 0 start.2 start.2.rest.length with
            | none => none
            | some (gap, next) => readFrom? single (text ++ run ++ gap.fold) next fuel

def read? (single : Bool) (c : Cursor) : Option (List Char × Cursor) :=
  readFrom? single [] c (c.rest.length + 1)

end Quoted

namespace Block

/-- What becomes of the line breaks at the end of a block. -/
inductive Chomping where
  /-- All go. -/
  | strip
  /-- One stays. -/
  | clip
  /-- All stay. -/
  | keep
deriving DecidableEq

def chomping? (c : Cursor) : Option (Chomping × Cursor) :=
  if c.isAt '+' then some (.keep, c.skip 1)
  else if c.isAt '-' then some (.strip, c.skip 1)
  else none

/-- Read the indentation indicator, a digit, and tell if it is zero. -/
def indentation? (c : Cursor) : Option (Nat × Cursor) :=
  match c.head? with
  | some x => if x.isDigit then some (x.toNat - 0x30, c.skip 1) else none
  | none => none

/-- Read the indicators at the start of a block, in either order; a zero is refused. -/
def header? (c : Cursor) : Option (Chomping × Option Nat × Cursor) :=
  let result :=
    match chomping? c with
    | some (chomping, c) =>
        match indentation? c with
        | some (n, c) => (chomping, some n, c)
        | none => (chomping, none, c)
    | none =>
        match indentation? c with
        | some (n, c) =>
            match chomping? c with
            | some (chomping, c) => (chomping, some n, c)
            | none => (Chomping.clip, some n, c)
        | none => (Chomping.clip, none, c)
  if result.2.1 = some 0 then none else some result

/-- Pass over indentation and empty lines.  The answer holds the breaks and the greatest
column reached.  Without an indentation every space counts as indentation; a tab in its place is refused. -/
def breaks? (indent : Option Nat) (breaks : List Char) (greatest : Nat) (c : Cursor) :
    Nat → Option (List Char × Nat × Cursor)
  | 0 => none
  | fuel + 1 =>
      let spaces := (c.rest.takeWhile (· == ' ')).length
      let c := c.skip (indent.elim spaces (fun n => min spaces (n - c.column)))
      let greatest := max greatest c.column
      if indent.all (c.column < ·) && c.isAt '\t' then none
      else if c.atBreak then
        let (text, next) := c.readBreak
        breaks? indent (breaks ++ text) greatest next fuel
      else some (breaks, greatest, c)

/-- Read the lines of a block, with the text so far, the last line's break, the empty lines' breaks
after it, and whether the last line began with a blank.  A folded block joins lines by a space, or
by the breaks of empty lines, unless one of them begins with a blank. -/
def lines? (literal : Bool) (indent : Nat) (text lastBreak breaks : List Char)
    (blankBefore : Bool) (c : Cursor) :
    Nat → Option (List Char × List Char × List Char × Cursor)
  | 0 => none
  | fuel + 1 =>
      if c.column = indent && !c.atEnd then
        let blank := c.atBlank
        let joint :=
          if !literal && lastBreak = ['\n'] && !blankBefore && !blank then
            if breaks = [] then [' '] else []
          else lastBreak
        let line := c.rest.takeWhile (fun x => !isBreak x)
        let (newBreak, next) := (c.skip line.length).readBreak
        match breaks? (some indent) [] 0 next (next.rest.length + 1) with
        | none => none
        | some (newBreaks, _, next) =>
            lines? literal indent (text ++ joint ++ breaks ++ line) newBreak newBreaks blank next
              fuel
      else some (text, lastBreak, breaks, c)

/-- Read a block behind its indicator, within a collection at column `parent`.  Where the block does
not tell its indentation, its first line that is not empty does. -/
def read? (literal : Bool) (parent : Int) (c : Cursor) : Option (List Char × Cursor) := do
  let (chomping, increment, c) ← header? c
  let c ← c.skipLineEnd?
  let told := increment.map (fun n => if 0 ≤ parent then parent.toNat + n else n)
  let (breaks, greatest, c) ← breaks? told [] 0 c (c.rest.length + 1)
  let indent := told.getD (max greatest (max (parent + 1).toNat 1))
  let (text, lastBreak, breaks, c) ←
    lines? literal indent [] [] breaks false c (c.rest.length + 1)
  return (text ++ (if chomping = .strip then [] else lastBreak) ++
    (if chomping = .keep then breaks else []), c)

end Block
end Yaml
end PathTemplate
