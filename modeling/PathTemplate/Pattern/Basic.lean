import PathTemplate.Pattern.Search

/-!
Patterns: the steps of a template together with how far a match must reach and how letters are
compared.  Every template has one.  An engine that compiles the written form may limit its size and
refuse it; here the steps are searched as they are, and no pattern is refused.
-/

namespace PathTemplate

/-- How much of a path a pattern must account for. -/
inductive Extent where
  /-- All of it, but for one slash at the end. -/
  | whole
  /-- Its leading segments. -/
  | leading
deriving DecidableEq, Repr

namespace Extent

/-- What may be left of a path after the last step. -/
def allows : Extent → List Char → Bool
  | whole, rest => rest == [] || rest == ['/']
  | leading, rest => rest.head?.all (· == '/')

def text : Extent → List Char
  | whole => "/?$".toList
  | leading => "(?:/|$)".toList

end Extent

structure Pattern where
  tokens : List Token
  extent : Extent
  caseSensitive : Bool
deriving DecidableEq, Repr

namespace Pattern

def ofTemplate (t : Template) (extent : Extent) (caseSensitive : Bool) : Pattern :=
  ⟨t.tokens, extent, caseSensitive⟩

/-- The pattern as a regular expression. -/
def text (p : Pattern) : String :=
  String.ofList ('^' :: p.tokens.flatMap Token.text ++ p.extent.text)

/-- What each parameter captures in a path, if the path matches. -/
def captures? (p : Pattern) (path : String) : Option (List (Option String)) :=
  (Token.captures? (CaseFold.agree p.caseSensitive) p.extent.allows p.tokens path.toList).map
    (·.map (·.map String.ofList))

end Pattern
end PathTemplate
