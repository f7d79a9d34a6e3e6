import PathTemplate.Json
import PathTemplate.Yaml.Document

/-!
The settings of a named template, as a configuration file gives them, and their forms in YAML and
JSON.  In both, what is at its default is left out.
-/

namespace PathTemplate

/-- A template's name and text, what it is for, and how its letters are compared. -/
structure Settings where
  name : String
  template : String
  description : Option String
  caseSensitive : Bool
deriving DecidableEq, Repr

namespace Settings

open Yaml

/-- The text of a scalar, whatever it looks like. -/
def text? (d : Document) (node : Linked) : Option String :=
  match d.resolve node with
  | .scalar _ text _ => some (String.ofList text)
  | _ => none

def isNull (text : List Char) : Bool :=
  ["null", "Null", "NULL", "~"].contains (String.ofList text)

/-- A text that may be missing: it is missing where nothing stands, or a null that is neither quoted
nor tagged as something else. -/
def optionalText? (d : Document) (node : Linked) : Option (Option String) :=
  match d.resolve node with
  | .scalar p text .plain =>
      match p.tag with
      | none => some (if text = [] || isNull text then none else some (String.ofList text))
      | some tag =>
          if tag = "tag:yaml.org,2002:null".toList then
            if isNull text then some none else none
          else some (some (String.ofList text))
  | .scalar _ text _ => some (some (String.ofList text))
  | _ => none

/-- A truth value: one of the spellings of true and false, written plainly, or in a literal block
that is tagged as a truth value. -/
def bool? (d : Document) (node : Linked) : Option Bool :=
  match d.resolve node with
  | .scalar p text style =>
      if style = .plain ||
          (style = .literal && p.tag = some "tag:yaml.org,2002:bool".toList) then
        if ["true", "True", "TRUE"].contains (String.ofList text) then some true
        else if ["false", "False", "FALSE"].contains (String.ofList text) then some false
        else none
      else none
  | _ => none

/-- The value of a key that occurs at most once. -/
def unique? {α : Type} (fields : List (String × α)) (key : String) : Option (Option α) :=
  match fields.filter (·.1 == key) with
  | [] => some none
  | [field] => some (some field.2)
  | _ => none

/-- The settings in a mapping.  Every key must be a scalar; those not known are passed over. -/
def ofNode? (d : Document) (node : Linked) : Option Settings :=
  match d.resolve node with
  | .mapping _ pairs => do
      let fields ← pairs.mapM (fun pair => (text? d pair.1).map (·, pair.2))
      let name ← text? d (← ← unique? fields "name")
      let template ← text? d (← ← unique? fields "template")
      let description ←
        match ← unique? fields "description" with
        | none => pure none
        | some value => optionalText? d value
      let caseSensitive ←
        match ← unique? fields "case_sensitive" with
        | none => pure false
        | some value => bool? d value
      return ⟨name, template, description, caseSensitive⟩
  | _ => none

/-- Read the settings of one template from YAML. -/
def ofYaml? (yaml : String) : Option Settings := do
  let d ← Document.read? yaml
  ofNode? d (← d.root)

/-- Read the settings of any number of templates from YAML: a sequence, or nothing. -/
def listOfYaml? (yaml : String) : Option (List Settings) := do
  let d ← Document.read? yaml
  match d.root.map d.resolve with
  | none => return []
  | some (.sequence _ items) => items.mapM (ofNode? d)
  | some (.scalar _ [] .plain) => return []
  | some _ => none

/-- A character in double quotes in YAML. -/
def yamlChar (c : Char) : List Char :=
  if c = '"' ∨ c = '\\' then ['\\', c]
  else if 0x20 ≤ c.toNat ∧ c.toNat < 0x7F then [c]
  else
    let n := c.toNat
    '\\' :: 'U' :: [28, 24, 20, 16, 12, 8, 4, 0].map (fun k => Json.hexDigit ((n >>> k) % 16))

def yamlText (s : String) : List Char :=
  '"' :: s.toList.flatMap yamlChar ++ ['"']

/-- The YAML form of settings: a line for each key. -/
def toYaml (s : Settings) : String :=
  let field := fun (key : String) (value : List Char) => key.toList ++ ':' :: ' ' :: value ++ ['\n']
  String.ofList
    (field "name" (yamlText s.name) ++ field "template" (yamlText s.template) ++
      s.description.elim [] (fun t => field "description" (yamlText t)) ++
      (if s.caseSensitive then field "case_sensitive" "true".toList else []))

def toJson (s : Settings) : Json :=
  .object
    ([("name", .string s.name), ("template", .string s.template)] ++
      (s.description.map (fun t => ("description", Json.string t))).toList ++
      (if s.caseSensitive then [("case_sensitive", .bool true)] else []))

end Settings
end PathTemplate
