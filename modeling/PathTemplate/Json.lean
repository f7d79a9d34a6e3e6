/-!
JSON values and their two written forms: a compact one without blanks, and one that puts every
member of an object on a line of its own.
-/

namespace PathTemplate

/-- The JSON values that this library writes. -/
inductive Json where
  | null
  | bool (b : Bool)
  | string (s : String)
  /-- An object; its members keep their order. -/
  | object (members : List (String × Json))

namespace Json

def hexDigit (n : Nat) : Char :=
  Char.ofNat (if n < 10 then 0x30 + n else 0x57 + n)

/-- A character within a string: quotes, backslashes and control characters are escaped, by a letter
where there is one, and all else stands for itself. -/
def escapeChar (c : Char) : List Char :=
  if c = '"' then ['\\', '"']
  else if c = '\\' then ['\\', '\\']
  else if c = '\x08' then ['\\', 'b']
  else if c = '\x0c' then ['\\', 'f']
  else if c = '\n' then ['\\', 'n']
  else if c = '\r' then ['\\', 'r']
  else if c = '\t' then ['\\', 't']
  else if c.toNat < 0x20 then
    ['\\', 'u', '0', '0', hexDigit (c.toNat / 16), hexDigit (c.toNat % 16)]
  else [c]

def quote (s : String) : List Char :=
  '"' :: s.toList.flatMap escapeChar ++ ['"']

/-- A line break and the indentation of the given depth. -/
def newline (depth : Nat) : List Char :=
  '\n' :: List.replicate (2 * depth) ' '

mutual

def compact : Json → List Char
  | null => "null".toList
  | bool b => (if b then "true" else "false").toList
  | string s => quote s
  | object [] => ['\x7b', '\x7d']
  | object (m :: rest) =>
      '\x7b' :: quote m.1 ++ ':' :: compact m.2 ++ compactRest rest

/-- The members after the first, and the end of their object, in compact form. -/
def compactRest : List (String × Json) → List Char
  | [] => ['\x7d']
  | m :: rest => ',' :: quote m.1 ++ ':' :: compact m.2 ++ compactRest rest

end

mutual

/-- The form with a line for each member, for a value at the given depth. -/
def pretty (depth : Nat) : Json → List Char
  | null => "null".toList
  | bool b => (if b then "true" else "false").toList
  | string s => quote s
  | object [] => ['\x7b', '\x7d']
  | object (m :: rest) =>
      '\x7b' :: newline (depth + 1) ++ quote m.1 ++ ':' :: ' ' :: pretty (depth + 1) m.2 ++
        prettyRest depth rest

/-- The members after the first, and the end of their object, a line for each. -/
def prettyRest (depth : Nat) : List (String × Json) → List Char
  | [] => newline depth ++ ['\x7d']
  | m :: rest =>
      ',' :: newline (depth + 1) ++ quote m.1 ++ ':' :: ' ' :: pretty (depth + 1) m.2 ++
        prettyRest depth rest

end

/-- The compact text of a value. -/
def toCompact (j : Json) : String :=
  String.ofList j.compact

/-- The text of a value with a line for each member. -/
def toPretty (j : Json) : String :=
  String.ofList (j.pretty 0)

end Json
end PathTemplate
