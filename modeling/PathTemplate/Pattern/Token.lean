import PathTemplate.Template.Reader

/-!
A template as a sequence of matching steps, and the written form of those steps as a regular
expression.  Characters with a meaning in regular expressions are written behind a backslash, so
the parentheses of the written form that are not escaped are those of the parameters.
-/

namespace PathTemplate

/-- One step of matching a path. -/
inductive Token where
  /-- A character of literal text, or the separator of a required parameter. -/
  | char (c : Char)
  /-- The value of a required parameter; it stops at a slash, and at a dot when `excludesDot`. -/
  | value (excludesDot : Bool)
  /-- The value of an optional parameter together with its separator. -/
  | optionalValue (separator : Option Char) (excludesDot : Bool)
deriving DecidableEq, Repr

/-- The steps of one part.  A value behind a dot may itself contain none. -/
def Part.tokens : Part → List Token
  | literal text => text.toList.map .char
  | param key separator =>
      let excludesDot := separator == some '.'
      if key.optional then [.optionalValue separator excludesDot]
      else separator.toList.map .char ++ [.value excludesDot]

namespace Template

/-- The steps of a sequence of parts; a literal at the very end loses a final slash. -/
def tokensOf : List Part → List Token
  | [] => []
  | [.literal text] => (dropFinalSlash text.toList).map .char
  | part :: rest => part.tokens ++ tokensOf rest

def tokens (t : Template) : List Token :=
  tokensOf t.parts

end Template

namespace Token

def admits (excludesDot : Bool) (c : Char) : Bool :=
  c != '/' && !(excludesDot && c == '.')

def isOperator (c : Char) : Bool :=
  "\\.+*?()|[]\x7b\x7d^$#&-~".toList.contains c

def escape (c : Char) : List Char :=
  if isOperator c then ['\\', c] else [c]

/-- The group that captures a value. -/
def group (excludesDot : Bool) : List Char :=
  (if excludesDot then "([^/.]+?)" else "([^/]+?)").toList

def text : Token → List Char
  | char c => escape c
  | value excludesDot => group excludesDot
  | optionalValue separator excludesDot =>
      "(?:".toList ++ separator.toList.flatMap escape ++ group excludesDot ++ ")?".toList

end Token
end PathTemplate
