import PathTemplate.Url.Authority
import PathTemplate.Url.Path

/-!
Reading absolute URLs.  Of a URL only its path and its query are kept.  A URL is refused if it has
no scheme, if its authority is malformed, or if what follows its scheme is no path, as in
`mailto:someone`.
-/

namespace PathTemplate

/-- The path and the query of an absolute URL, as they are written in it after normalization. -/
structure Url where
  path : List Char
  query : Option (List Char)
deriving DecidableEq, Repr

namespace Url

/-- Drop the characters that count for nothing in a URL: control characters and spaces around it,
and tabs and line breaks anywhere. -/
def clean (cs : List Char) : List Char :=
  let isEdge := fun c : Char => c.toNat ≤ 0x20
  ((cs.dropWhile isEdge).reverse.dropWhile isEdge).reverse.filter
    (fun c => c != '\t' && c != '\n' && c != '\r')

/-- The printable characters that are escaped in a query. -/
def queryEscaped (s : Scheme) : List Char :=
  " \"#<>".toList ++ (if s.isSpecial then ['\''] else [])

def endsPath (c : Char) : Bool :=
  c == '?' || c == '#'

def readQuery (s : Scheme) : List Char → Option (List Char)
  | '?' :: rest =>
      some ((rest.takeWhile (· ≠ '#')).flatMap (escapeChar (queryEscaped s)))
  | _ => none

/-- The URL whose path begins, after its first slash, at the start of a text. -/
def ofPath (s : Scheme) (cs : List Char) : Url :=
  ⟨Path.read s (cs.takeWhile (fun c => !endsPath c)),
    readQuery s (cs.dropWhile (fun c => !endsPath c))⟩

/-- The URL whose path, if it has one, is at the start of a text, after the authority.  A slash that
should be there is taken as read, and only URLs of other schemes may have no path. -/
def ofRest (s : Scheme) (cs : List Char) : Url :=
  match cs with
  | c :: rest =>
      if s.isSlash c then ofPath s rest
      else if !s.isSpecial && endsPath c then ⟨[], readQuery s cs⟩
      else ofPath s cs
  | [] => if s.isSpecial then ofPath s [] else ⟨[], none⟩

/-- Read what follows the scheme of a file.  After two slashes there is a host, unless a drive
stands there; without a host the slash that ends the host's place begins an empty segment. -/
def readFile? (cs : List Char) : Option Url :=
  match cs with
  | a :: b :: rest =>
      if Scheme.file.isSlash a && Scheme.file.isSlash b then
        let host := rest.takeWhile (fun c => !Scheme.file.endsAuthority c)
        let after := rest.dropWhile (fun c => !Scheme.file.endsAuthority c)
        if Path.isDrive host then some (ofPath .file rest)
        else if host = [] then some (ofPath .file after)
        else
          match Host.normalize? host with
          | none => none
          | some name =>
              if name = "localhost".toList then some (ofPath .file after)
              else some (ofRest .file after)
      else some (ofRest .file cs)
  | _ => some (ofRest .file cs)

/-- Read a cleaned absolute URL. -/
def readClean? (cs : List Char) : Option Url :=
  match Scheme.read? cs with
  | none => none
  | some (.file, rest) => readFile? rest
  | some (.web, rest) =>
      (Authority.drop? .web (rest.dropWhile Scheme.web.isSlash)).map (ofRest .web)
  | some (.other, '/' :: '/' :: rest) => (Authority.drop? .other rest).map (ofRest .other)
  | some (.other, '/' :: rest) => some (ofPath .other rest)
  | some (.other, _) => none

def read? (cs : List Char) : Option Url :=
  readClean? (clean cs)

end Url
end PathTemplate
