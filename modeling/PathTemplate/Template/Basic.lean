/-!
Path templates: literal text interleaved with named parameters.  A parameter may own the separator
in front of it, which then comes and goes with the parameter's value.
-/

namespace PathTemplate

structure Key where
  name : String
  optional : Bool
deriving DecidableEq, Repr

/-- One piece of a template. -/
inductive Part where
  /-- Text that stands for itself. -/
  | literal (text : String)
  /-- A parameter and the character in front of its value, if it owns one. -/
  | param (key : Key) (separator : Option Char)
deriving DecidableEq, Repr

namespace Part

/-- The parameter a part declares, if it declares one. -/
def key? : Part → Option Key
  | literal _ => none
  | param key _ => some key

end Part

/-- A template is a sequence of parts. -/
structure Template where
  parts : List Part
deriving DecidableEq, Repr

namespace Template

def keys (t : Template) : List Key :=
  t.parts.filterMap Part.key?

end Template
end PathTemplate
