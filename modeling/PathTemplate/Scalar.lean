import PathTemplate.Decimal.Shortest

/-!
Values as callers hand them in.  Params and queries keep text; a scalar's text is what it leaves
there.
-/

namespace PathTemplate

/-- A value that can be given to a parameter or a query name. -/
inductive Scalar where
  | text (s : String)
  | bool (b : Bool)
  | int (n : Int)
  | float (x : Float)

namespace Scalar

def toText : Scalar → String
  | text s => s
  | bool b => if b then "true" else "false"
  | int n => toString n
  | float x => floatText x

end Scalar
end PathTemplate
