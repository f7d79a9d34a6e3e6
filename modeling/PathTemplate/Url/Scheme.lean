/-!
URL schemes, as far as they decide how the rest of a URL is read.
-/

namespace PathTemplate
namespace Url

inductive Scheme where
  /-- Local files. -/
  | file
  /-- The schemes of the web, which always have a host, and where a backslash is a slash. -/
  | web
  /-- Every other scheme. -/
  | other
deriving DecidableEq, Repr

namespace Scheme

/-- The kind of the scheme with the given lower-case name. -/
def ofName (name : String) : Scheme :=
  if name = "file" then file
  else if name ∈ ["http", "https", "ws", "wss", "ftp"] then web
  else other

/-- Whether a backslash is read as a slash. -/
def isSpecial : Scheme → Bool
  | other => false
  | _ => true

/-- Whether a character separates the segments of a path. -/
def isSlash (s : Scheme) (c : Char) : Bool :=
  c == '/' || (s.isSpecial && c == '\\')

/-- Whether a character ends the part of a URL that names the host. -/
def endsAuthority (s : Scheme) (c : Char) : Bool :=
  s.isSlash c || c == '?' || c == '#'

/-- Whether a character may stand in a scheme after its first letter. -/
def isNameChar (c : Char) : Bool :=
  c.isAlphanum || c == '+' || c == '-' || c == '.'

/-- The scheme at the start of a URL and the text after its colon. -/
def read? (cs : List Char) : Option (Scheme × List Char) :=
  match cs with
  | [] => none
  | c :: _ =>
      if c.isAlpha then
        match cs.dropWhile isNameChar with
        | ':' :: rest =>
            some (ofName (String.ofList ((cs.takeWhile isNameChar).map Char.toLower)), rest)
        | _ => none
      else none

end Scheme
end Url
end PathTemplate
