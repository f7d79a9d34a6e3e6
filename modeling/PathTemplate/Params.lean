import PathTemplate.OrderedMap

/-!
Parameter values.  A name may be present without a value: an optional piece that a URL left out, or
an override that drops one.
-/

namespace PathTemplate

/-- Parameter values by name, in order of insertion. -/
abbrev Params := OrderedMap (Option String)

namespace Params

def insert (p : Params) (name value : String) : Params :=
  p.set name (some value)

/-- Keep a parameter's name and mark its value as absent. -/
def unset (p : Params) (name : String) : Params :=
  p.set name none

def get? (p : Params) (name : String) : Option String :=
  (p.find? name).join

/-- The value of a parameter, where an empty one counts as none. -/
def nonempty? (p : Params) (name : String) : Option String :=
  (p.get? name).filter (· ≠ "")

def ofPairs (pairs : List (String × String)) : Params :=
  OrderedMap.ofList (pairs.map (fun e => (e.1, some e.2)))

end Params
end PathTemplate
