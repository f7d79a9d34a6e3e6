/-!
Sets of characters given as ranges of code points.
-/

namespace PathTemplate

/-- Whether a character is in one of the ranges, whose ends belong to them. -/
def inRanges (ranges : List (Nat × Nat)) (c : Char) : Bool :=
  ranges.any (fun r => r.1 ≤ c.toNat && c.toNat ≤ r.2)

end PathTemplate
