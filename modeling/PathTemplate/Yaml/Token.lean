import PathTemplate.Yaml.Scalar

/-!
The tokens of YAML text.  Besides what is written there, they tell where the indentation opens and
closes collections, and where a key begins, which is known only when the colon behind it is reached:
every place where a key may begin is a slot, which is filled then or dropped in the end.
-/

namespace PathTemplate
namespace Yaml

inductive Token where
  /-- A directive that tells the version of YAML. -/
  | version (major minor : Nat)
  /-- A directive that tells what a tag's handle stands for. -/
  | handle (name text : List Char)
  | documentStart
  | documentEnd
  /-- The start of a sequence or mapping by indentation, and the end of either. -/
  | sequenceStart
  | mappingStart
  | blockEnd
  /-- Brackets and braces. -/
  | flowSequenceStart
  | flowSequenceEnd
  | flowMappingStart
  | flowMappingEnd
  /-- The dash in front of an item. -/
  | entry
  /-- The comma between items. -/
  | flowEntry
  | key
  | value
  | reference (name : List Char)
  | anchor (name : List Char)
  | tag (handle suffix : List Char)
  | scalar (text : List Char) (style : Style)
  /-- A place where a key may begin. -/
  | slot (n : Nat)
deriving DecidableEq, Repr

/-- A key that may have begun: its slot and place.  It is required if nothing but a key may stand
there. -/
structure PossibleKey where
  slot : Nat
  required : Bool
  index : Nat
  line : Nat
  column : Nat

/-- What has been read of a text: the tokens so far, last one first; the column of the innermost
collection by indentation, and of those around it; whether a key may begin here; and for each pair
of open brackets or braces, and for what is outside them, the key that may have begun there. -/
structure Scan where
  cursor : Cursor
  tokens : List Token
  slots : Nat
  indent : Int
  outer : List Int
  keyAllowed : Bool
  keys : List (Option PossibleKey)

namespace Scan

def inFlow (s : Scan) : Bool :=
  1 < s.keys.length

def push (s : Scan) (t : Token) : Scan :=
  { s with tokens := t :: s.tokens }

/-- Pass over an indicator and add its token. -/
def pushIndicator (s : Scan) (t : Token) (width : Nat) : Scan :=
  { s with tokens := t :: s.tokens, cursor := s.cursor.skip width }

/-- The number of collections that end where a line begins at `column`, and those left, from the
innermost one at `indent`. -/
def endedAt (column indent : Int) : List Int → Nat × Int × List Int
  | [] => (0, indent, [])
  | o :: rest =>
      if column < indent then
        let (n, left) := endedAt column o rest
        (n + 1, left)
      else (0, indent, o :: rest)

def closeTo (s : Scan) (column : Int) : Scan :=
  if s.inFlow then s
  else
    let (n, indent, outer) := endedAt column s.indent s.outer
    { s with tokens := List.replicate n .blockEnd ++ s.tokens, indent := indent, outer := outer }

/-- Whether a collection begins at `column` by indentation. -/
def opensAt (s : Scan) (column : Nat) : Bool :=
  !s.inFlow && s.indent < column

def openAt (s : Scan) (column : Nat) : Scan :=
  { s with indent := column, outer := s.indent :: s.outer }

/-- Begin a collection at the cursor if its column calls for one. -/
def openHere (s : Scan) (start : Token) : Scan :=
  if s.opensAt s.cursor.column then (s.openAt s.cursor.column).push start else s

/-- Give up the key that may have begun, unless one was required. -/
def dropKey? (s : Scan) : Option Scan :=
  match s.keys with
  | some k :: rest => if k.required then none else some { s with keys := none :: rest }
  | _ => some s

/-- Give up the keys that are too long ago: a key is on one line and shorter than 1024
characters. -/
def dropStaleKeys? (s : Scan) : Option Scan :=
  let isStale := fun k : PossibleKey =>
    k.line < s.cursor.line || k.index + 1024 < s.cursor.index
  if s.keys.any (·.any (fun k => isStale k && k.required)) then none
  else some { s with keys := s.keys.map (·.filter (fun k => !isStale k)) }

/-- Note that a key may begin at the cursor. -/
def markKey? (s : Scan) : Option Scan :=
  if s.keyAllowed then
    (s.dropKey?).map (fun s =>
      let c := s.cursor
      let k : PossibleKey :=
        { slot := s.slots
          required := !s.inFlow && s.indent == (c.column : Int)
          index := c.index
          line := c.line
          column := c.column }
      { s with
        tokens := .slot s.slots :: s.tokens
        slots := s.slots + 1
        keys := some k :: s.keys.drop 1 })
  else some s

/-- Fill a slot, given the tokens that come there, last one first. -/
def fill (n : Nat) (filling : List Token) : List Token → List Token
  | [] => []
  | t :: rest => if t = .slot n then filling ++ rest else t :: fill n filling rest

/-- Pass over white space and comments.  After a line break a key may begin.  A tab is white space
only where none may. -/
def skipSpace (s : Scan) : Nat → Scan
  | 0 => s
  | fuel + 1 =>
      let c := if s.cursor.index == 0 && s.cursor.isAt '\uFEFF' then s.cursor.skip 1 else s.cursor
      let c := c.skipWhile (fun x => x == ' ' || ((s.inFlow || !s.keyAllowed) && x == '\t'))
      let c := if c.isAt '#' then c.skipWhile (fun x => !isBreak x) else c
      if c.atBreak then
        skipSpace { s with cursor := c.skipBreak, keyAllowed := s.keyAllowed || !s.inFlow } fuel
      else { s with cursor := c }

/-- The characters of a tag.  Behind `<` the indicators of flow may be among them. -/
def isUriChar (verbatim : Bool) (c : Char) : Bool :=
  isWordChar c || ";/?:@&=+$.%!~*'()".toList.contains c || (verbatim && ",[]".toList.contains c)

/-- Read the characters of a tag, in which escapes are decoded. -/
def uri? (verbatim : Bool) (c : Cursor) : Option (List Char × Cursor) :=
  let text := c.rest.takeWhile (isUriChar verbatim)
  (Percent.decode? text).map (·, c.skip text.length)

/-- Read a handle: an exclamation mark, and perhaps a word with another one behind it. -/
def handle? (c : Cursor) : Option (List Char × Cursor) :=
  match c.rest with
  | '!' :: rest =>
      let word := rest.takeWhile isWordChar
      let closing := if (rest.drop word.length).head? == some '!' then ['!'] else []
      let text := '!' :: word ++ closing
      some (text, c.skip text.length)
  | _ => none

/-- Read a tag: a text in angle brackets, or a handle and a suffix.  What looks like a handle but
has no second exclamation mark is the start of the suffix of the handle `!`. -/
def tag? (flow : Bool) (c : Cursor) : Option (Token × Cursor) := do
  let (token, c) ←
    if (c.rest.drop 1).head? = some '<' then do
      let (text, c) ← uri? true (c.skip 2)
      if text ≠ [] && c.isAt '>' then some (Token.tag [] text, c.skip 1) else none
    else do
      let (handle, after) ← handle? c
      if 1 < handle.length && handle.getLast? = some '!' then do
        let (suffix, after) ← uri? false after
        if suffix = [] then none else some (Token.tag handle suffix, after)
      else do
        let (suffix, after) ← uri? false (c.skip 1)
        some (if suffix = [] then Token.tag [] ['!'] else Token.tag ['!'] suffix, after)
  if c.atSpace || (flow && c.isAt ',') then some (token, c) else none

/-- Read the name of an anchor or alias behind its indicator. -/
def anchorName? (c : Cursor) : Option (List Char × Cursor) :=
  let name := c.rest.takeWhile isWordChar
  let after := c.skip name.length
  if name ≠ [] && (after.atSpace || after.head?.any "?:,]\x7d%@\x60".toList.contains) then
    some (name, after)
  else none

/-- Read a number of a version, of at most nine digits. -/
def versionNumber? (c : Cursor) : Option (Nat × Cursor) :=
  let digits := c.rest.takeWhile Char.isDigit
  if digits ≠ [] && digits.length ≤ 9 then
    some (digits.foldl (fun n d => 10 * n + (d.toNat - 0x30)) 0, c.skip digits.length)
  else none

/-- Read a directive behind its indicator.  Only the directives of the standard are known. -/
def directive? (c : Cursor) : Option (Token × Cursor) := do
  let name := c.rest.takeWhile isWordChar
  let c := c.skip name.length
  if !c.atSpace then none
  else
    let (token, c) ←
      if name = "YAML".toList then do
        let (major, c) ← versionNumber? (c.skipWhile isBlankChar)
        if c.isAt '.' then do
          let (minor, c) ← versionNumber? (c.skip 1)
          some (Token.version major minor, c)
        else none
      else if name = "TAG".toList then do
        let (handle, c) ← handle? (c.skipWhile isBlankChar)
        if (handle = ['!'] || handle.getLast? = some '!') && c.atBlank then do
          let (text, c) ← uri? true (c.skipWhile isBlankChar)
          if text ≠ [] && c.atSpace then some (Token.handle handle text, c) else none
        else none
      else none
    let c ← c.skipLineEnd?
    return (token, c)

def openFlow? (s : Scan) (t : Token) : Option Scan :=
  (s.markKey?).map (fun s =>
    { s.pushIndicator t 1 with keyAllowed := true, keys := none :: s.keys })

def closeFlow? (s : Scan) (t : Token) : Option Scan :=
  (s.dropKey?).map (fun s =>
    { s.pushIndicator t 1 with
      keyAllowed := false
      keys := if s.inFlow then s.keys.drop 1 else s.keys })

/-- Read a marker of a document's start or end, or a directive, before which all collections end. -/
def between? (s : Scan) : Option Scan :=
  ((s.closeTo (-1)).dropKey?).map ({ · with keyAllowed := false })

def entry? (s : Scan) : Option Scan :=
  if !s.inFlow && !s.keyAllowed then none
  else
    ((s.openHere .sequenceStart).dropKey?).map (fun s =>
      { s.pushIndicator .entry 1 with keyAllowed := true })

def explicitKey? (s : Scan) : Option Scan :=
  if !s.inFlow && !s.keyAllowed then none
  else
    ((s.openHere .mappingStart).dropKey?).map (fun s =>
      { s.pushIndicator .key 1 with keyAllowed := !s.inFlow })

/-- Read the colon in front of a value.  If a key may have begun, it has. -/
def value? (s : Scan) : Option Scan :=
  match s.keys with
  | some k :: rest =>
      let opens := s.opensAt k.column
      let filling := if opens then [Token.key, .mappingStart] else [Token.key]
      let s := if opens then s.openAt k.column else s
      some
        { s.pushIndicator .value 1 with
          tokens := .value :: fill k.slot filling s.tokens
          keys := none :: rest
          keyAllowed := false }
  | _ =>
      if !s.inFlow && !s.keyAllowed then none
      else
        let s := s.openHere .mappingStart
        some { s.pushIndicator .value 1 with keyAllowed := !s.inFlow }

/-- Read something that may be a key, or the start of one, given its token and the cursor behind
it. -/
def content? (s : Scan) (read : Option (Token × Cursor)) : Option Scan := do
  let s ← s.markKey?
  let (token, c) ← read
  return { s.push token with cursor := c, keyAllowed := false }

/-- Read a block scalar, which is no key. -/
def block? (s : Scan) (literal : Bool) : Option Scan := do
  let s ← s.dropKey?
  let (text, c) ← Block.read? literal s.indent (s.cursor.skip 1)
  return { s.push (.scalar text (if literal then .literal else .folded)) with
    cursor := c
    keyAllowed := true }

/-- Read a plain scalar.  If it ends on a later line than it began, a key may follow. -/
def plain? (s : Scan) : Option Scan := do
  let s ← s.markKey?
  let (text, broken, c) ← Plain.read? s.inFlow (s.indent + 1).toNat s.cursor
  return { s.push (.scalar text .plain) with cursor := c, keyAllowed := broken }

/-- Whether a plain scalar may begin with a character, given what follows it. -/
def startsPlain (flow : Bool) (x : Char) (rest : List Char) : Bool :=
  !(isSpaceChar x || "-?:,[]\x7b\x7d#&*!|>'\"%@\x60".toList.contains x) ||
    (x == '-' && !rest.head?.any isBlankChar) ||
    (!flow && (x == '?' || x == ':') && !rest.head?.all isSpaceChar)

/-- Read the token at the cursor, whose first characters are given. -/
def token? (s : Scan) (x : Char) (rest : List Char) : Option Scan :=
  let c := s.cursor
  let spaced := rest.head?.all isSpaceChar
  if c.column == 0 && x == '%' then do
    let s ← s.between?
    let (token, c) ← directive? (c.skip 1)
    return { s.push token with cursor := c }
  else if c.atMarker '-' then (s.between?).map (·.pushIndicator .documentStart 3)
  else if c.atMarker '.' then (s.between?).map (·.pushIndicator .documentEnd 3)
  else if x == '[' then s.openFlow? .flowSequenceStart
  else if x == '\x7b' then s.openFlow? .flowMappingStart
  else if x == ']' then s.closeFlow? .flowSequenceEnd
  else if x == '\x7d' then s.closeFlow? .flowMappingEnd
  else if x == ',' then
    (s.dropKey?).map (fun s => { s.pushIndicator .flowEntry 1 with keyAllowed := true })
  else if x == '-' && spaced then s.entry?
  else if x == '?' && (s.inFlow || spaced) then s.explicitKey?
  else if x == ':' && (s.inFlow || spaced) then s.value?
  else if x == '*' then s.content? ((anchorName? (c.skip 1)).map (fun r => (.reference r.1, r.2)))
  else if x == '&' then s.content? ((anchorName? (c.skip 1)).map (fun r => (.anchor r.1, r.2)))
  else if x == '!' then s.content? (tag? s.inFlow c)
  else if x == '|' && !s.inFlow then s.block? true
  else if x == '>' && !s.inFlow then s.block? false
  else if x == '\'' then
    s.content? ((Quoted.read? true (c.skip 1)).map (fun r => (.scalar r.1 .singleQuoted, r.2)))
  else if x == '"' then
    s.content? ((Quoted.read? false (c.skip 1)).map (fun r => (.scalar r.1 .doubleQuoted, r.2)))
  else if startsPlain s.inFlow x rest then s.plain?
  else none

/-- Read tokens to the end of the text. -/
def run? (s : Scan) : Nat → Option (List Token)
  | 0 => none
  | fuel + 1 =>
      match (s.skipSpace (s.cursor.rest.length + 1)).dropStaleKeys? with
      | none => none
      | some s =>
          let s := s.closeTo s.cursor.column
          match s.cursor.rest with
          | [] => (s.between?).map (·.tokens)
          | x :: rest =>
              match s.token? x rest with
              | none => none
              | some s => run? s fuel

end Scan

namespace Token

def isSlot : Token → Bool
  | slot _ => true
  | _ => false

/-- Read all tokens of a text.  A byte order mark at its start does not count. -/
def scan? (cs : List Char) : Option (List Token) :=
  let cs := if cs.head? = some '\uFEFF' then cs.drop 1 else cs
  if cs.all isAllowed then
    let start : Scan := ⟨Cursor.ofText cs, [], 0, -1, [], true, [none]⟩
    (start.run? (cs.length + 2)).map (fun tokens => (tokens.filter (!·.isSlot)).reverse)
  else none

end Token
end Yaml
end PathTemplate
