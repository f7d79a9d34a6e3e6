import PathTemplate.OrderedMap
import PathTemplate.Text.Form

/-!
Query values: what a search string says, by name.  Reading keeps the last value of a repeated name
in the place of its first occurrence.
-/

namespace PathTemplate

abbrev Query := OrderedMap String

namespace Query

/-- Read a search string, given without its question mark. -/
def parse (search : String) : Query :=
  OrderedMap.ofList (Form.parse search.toList)

/-- Write a query as a search string, without a question mark. -/
def serialize (q : Query) : String :=
  String.ofList (['&'].intercalate (q.entries.map (fun e => Form.write e.1 e.2)))

end Query
end PathTemplate
