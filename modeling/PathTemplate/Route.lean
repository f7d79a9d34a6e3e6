import PathTemplate.Location
import PathTemplate.MatchResult
import PathTemplate.Pattern.Basic
import PathTemplate.Template.Filling

/-!
Routes: templates ready for use.  A route reads parameters and query out of a URL, builds a URL from
them, and rewrites a URL by reading it, overriding some values, and building it anew.
-/

namespace PathTemplate

/-- A template with its normalized text, and how its letters are compared. -/
structure Route where
  source : String
  template : Template
  caseSensitive : Bool
deriving DecidableEq, Repr

namespace Route

/-- Read a route from the text of its template. -/
def compile (text : String) (caseSensitive : Bool) : Except Error Route :=
  let source := Template.normalize text
  match Template.read source with
  | .ok template => .ok ⟨source, template, caseSensitive⟩
  | .error fault => .error (.invalidTemplate fault)

def keys (r : Route) : List Key :=
  r.template.keys

def pattern (r : Route) (extent : Extent) : Pattern :=
  Pattern.ofTemplate r.template extent r.caseSensitive

/-- Decode what parameters captured.  A capture that is not well-formed percent-encoded UTF-8 spoils
the whole match, since no value is written that way. -/
def bind : List Key → List (Option String) → Option (List (String × Option String))
  | key :: keys, none :: captures => (bind keys captures).map ((key.name, none) :: ·)
  | key :: keys, some raw :: captures =>
      match Percent.decode? raw.toList with
      | some value => (bind keys captures).map ((key.name, some (String.ofList value)) :: ·)
      | none => none
  | _, _ => some []

/-- Match a location, and read its parameters and query if it does.  There must be one capture for
each declared parameter. -/
def matchLocation (r : Route) (l : Location) (extent : Extent) : MatchResult :=
  match (r.pattern extent).captures? l.pathname with
  | none => .noMatch
  | some captures =>
      if captures.length = r.keys.length then
        match bind r.keys captures with
        | none => .noMatch
        | some values => .found ⟨OrderedMap.ofList values, l.search.map Query.parse⟩
      else .noMatch

def matchUrl (r : Route) (url : String) (extent : Extent) : MatchResult :=
  r.matchLocation (Location.parse url) extent

/-- A search string as it stands in a URL: nothing if it is empty. -/
def searchSuffix (search : String) : String :=
  if search = "" then "" else "?" ++ search

/-- Build a URL from values and a query. -/
def format (r : Route) (values : Params) (query : Option Query) : Except Error String := do
  let path ← r.template.fill values
  return path ++ searchSuffix (query.elim "" Query.serialize)

/-- Rewrite a location of this route with some values overridden; `none` if it is not of this
route. -/
def replace (r : Route) (l : Location) (values : Option Params) (query : Option Query) :
    Except Error (Option String) :=
  match r.matchLocation l .whole with
  | .noMatch => .ok none
  | .found m =>
      let newValues := values.elim m.params m.params.merge
      let oldQuery := m.query.getD OrderedMap.empty
      let newQuery := query.elim oldQuery oldQuery.merge
      (r.format newValues (some newQuery)).map some

end Route
end PathTemplate
