import PathTemplate.Error
import PathTemplate.Params
import PathTemplate.Template.Basic
import PathTemplate.Text.Percent

/-!
Filling a template with values.  A parameter without a non-empty value disappears together with its
separator if it is optional, and is an error otherwise.
-/

namespace PathTemplate

/-- The text of a part under the given values. -/
def Part.fill (values : Params) : Part → Except Error (List Char)
  | literal text => .ok text.toList
  | param key separator =>
      match values.nonempty? key.name with
      | some value => .ok (separator.toList ++ Percent.encode value.toList)
      | none => if key.optional then .ok [] else .error (.missingParameter key.name)

namespace Template

/-- The text of a sequence of parts under the given values, or the error of the first part that has
one. -/
def fillParts (values : Params) : List Part → Except Error (List Char)
  | [] => .ok []
  | part :: rest => do
      let here ← part.fill values
      let after ← fillParts values rest
      return here ++ after

/-- The path of a template under the given values; a path of nothing is the root. -/
def fill (t : Template) (values : Params) : Except Error String := do
  match ← fillParts values t.parts with
  | [] => return "/"
  | path => return String.ofList path

end Template
end PathTemplate
