import PathTemplate.Json
import PathTemplate.Params
import PathTemplate.Query

/-!
The outcome of matching a URL, and its JSON form: an object that begins with the outcome's status.
A match without query has no `query` member, and a parameter without value is `null`.
-/

namespace PathTemplate

/-- What a matching URL says: a value or its absence for every declared parameter, and the query, if
the URL has a search string that is not blank. -/
structure Match where
  params : Params
  query : Option Query
deriving DecidableEq

/-- The outcome of matching a URL. -/
inductive MatchResult where
  | noMatch
  | found (m : Match)
deriving DecidableEq

def Params.toJson (p : Params) : Json :=
  .object (p.entries.map (fun e => (e.1, e.2.elim .null .string)))

def Query.toJson (q : Query) : Json :=
  .object (q.entries.map (fun e => (e.1, .string e.2)))

namespace MatchResult

def isMatch : MatchResult → Bool
  | noMatch => false
  | found _ => true

def toOption : MatchResult → Option Match
  | noMatch => none
  | found m => some m

def toJson : MatchResult → Json
  | noMatch => .object [("status", .string "no_match")]
  | found m =>
      .object (("status", .string "match") :: ("params", m.params.toJson) ::
        (m.query.map (fun q => ("query", q.toJson))).toList)

end MatchResult
end PathTemplate
