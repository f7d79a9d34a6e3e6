import PathTemplate.Query
import PathTemplate.Text.Blank
import PathTemplate.Url.Reader

/-!
What a template sees of a URL: its path and its search string.  An absolute URL is read by the rules
for URLs; any other text is cut at its first `#` and then at its first `?`, and the path in it is
left as it stands.
-/

namespace PathTemplate

/-- The path of a URL and its search string, which is kept without the question mark. -/
structure Location where
  pathname : String
  rawSearch : Option String
deriving DecidableEq, Repr

namespace Location

def ofPath (pathname : String) : Location :=
  ⟨pathname, none⟩

/-- Attach a search string; one question mark in front of it is dropped. -/
def withSearch (l : Location) (search : String) : Location :=
  match search.toList with
  | '?' :: rest => ⟨l.pathname, some (String.ofList rest)⟩
  | _ => ⟨l.pathname, some search⟩

/-- A path as it is kept: the empty one is the root. -/
def pathOrRoot (path : List Char) : String :=
  if path = [] then "/" else String.ofList path

/-- Cut a text into path and search string, without its fragment. -/
def split (text : String) : Location :=
  let body := text.toList.takeWhile (· ≠ '#')
  let path := pathOrRoot (body.takeWhile (· ≠ '?'))
  match body.dropWhile (· ≠ '?') with
  | [] => ⟨path, none⟩
  | _ :: search => ⟨path, some (String.ofList search)⟩

/-- Read a URL, absolute or relative. -/
def parse (text : String) : Location :=
  match Url.read? text.toList with
  | some url => ⟨pathOrRoot url.path, url.query.map String.ofList⟩
  | none => split text

/-- The search string, if there is one that is not blank. -/
def search (l : Location) : Option String :=
  l.rawSearch.filter (fun s => !s.toList.all isBlank)

end Location
end PathTemplate
