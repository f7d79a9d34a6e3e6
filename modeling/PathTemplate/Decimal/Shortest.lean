/-!
The shortest decimal that reads back as a given binary floating-point number.  The number is taken
apart into an integer and a power of two, and the reals that round to it form an interval.  Among
the decimals with the fewest digits in that interval the nearest is chosen, the upper one on a tie.  All
arithmetic is exact.
-/

namespace PathTemplate

/-- The number `digits · 10 ^ exponent`. -/
structure Decimal where
  digits : Nat
  exponent : Int
deriving DecidableEq, Repr

/-- A positive real and the reals that round to it, over a common denominator; the ends belong to
the interval when `closed`. -/
structure RoundingInterval where
  low : Nat
  value : Nat
  high : Nat
  denominator : Nat
  closed : Bool

namespace RoundingInterval

/-- The interval of `m · 2 ^ q`, where `narrow` says that the next number below is only half as far
away as the next one above. -/
def ofBinary (m : Nat) (q : Int) (narrow : Bool) : RoundingInterval :=
  let scale := Nat.pow 2 (q - 2).toNat
  { low := (if narrow then 4 * m - 1 else 4 * m - 2) * scale
    value := 4 * m * scale
    high := (4 * m + 2) * scale
    denominator := Nat.pow 2 (2 - q).toNat
    closed := m % 2 == 0 }

def inUnits (i : RoundingInterval) (p : Int) : RoundingInterval :=
  let up := Nat.pow 10 (-p).toNat
  { i with
    low := i.low * up
    value := i.value * up
    high := i.high * up
    denominator := i.denominator * Nat.pow 10 p.toNat }

def holds (i : RoundingInterval) (d : Nat) : Bool :=
  let x := d * i.denominator
  if i.closed then i.low ≤ x && x ≤ i.high else i.low < x && x < i.high

/-- The whole number of units nearest to the value that is in the interval, if one is. -/
def nearest? (i : RoundingInterval) : Option Nat :=
  let d := i.value / i.denominator
  match i.holds d, i.holds (d + 1) with
  | true, true => if 2 * (i.value % i.denominator) < i.denominator then some d else some (d + 1)
  | true, false => some d
  | false, true => some (d + 1)
  | false, false => none

/-- The number of places to shift a value below one to the left until it is at least one. -/
def leadingZeros (i : RoundingInterval) : Nat → Nat
  | 0 => 0
  | fuel + 1 =>
      if i.denominator ≤ i.value then 0
      else leadingZeros { i with value := i.value * 10 } fuel + 1

/-- The exponent `e` for which the value is at least `10 ^ (e - 1)` and below `10 ^ e`. -/
def magnitude (i : RoundingInterval) : Int :=
  if i.denominator ≤ i.value then ((Nat.toDigits 10 (i.value / i.denominator)).length : Int)
  else 1 - (i.leadingZeros 400 : Int)

/-- The nearest decimal of `count` digits in the interval, or else of the first greater number of
digits up to `count + fuel` that has one.  A value just below a power of ten may round up to it. -/
def shortestFrom (i : RoundingInterval) (count : Nat) : Nat → Decimal
  | 0 => ⟨0, 0⟩
  | fuel + 1 =>
      let p := i.magnitude - (count : Int)
      match (i.inUnits p).nearest? with
      | some d => if d = Nat.pow 10 count then ⟨1, p + count⟩ else ⟨d, p⟩
      | none => shortestFrom i (count + 1) fuel

/-- The shortest decimal in the interval; seventeen digits always suffice. -/
def shortest (i : RoundingInterval) : Decimal :=
  i.shortestFrom 1 17

end RoundingInterval

namespace Decimal

/-- A decimal without exponent: a point only where there is a fraction, and a zero before it. -/
def positional (d : Decimal) : String :=
  let digits := Nat.toDigits 10 d.digits
  if 0 ≤ d.exponent then String.ofList (digits ++ List.replicate d.exponent.toNat '0')
  else
    let places := (-d.exponent).toNat
    let padded := List.replicate (places + 1 - digits.length) '0' ++ digits
    let whole := padded.length - places
    String.ofList (padded.take whole ++ '.' :: padded.drop whole)

end Decimal

/-- The text of a floating-point number: the shortest decimal that reads back as it, never with an
exponent; a zero keeps its sign. -/
def floatText (x : Float) : String :=
  let bits := x.toBits.toNat
  let sign := if bits >>> 63 = 1 then "-" else ""
  let exponent : Nat := (bits >>> 52) % 2048
  let fraction : Nat := bits % 0x10000000000000
  if exponent = 2047 then
    if fraction = 0 then sign ++ "inf" else "NaN"
  else if exponent = 0 then
    if fraction = 0 then sign ++ "0"
    else sign ++ (RoundingInterval.ofBinary fraction (-1074) false).shortest.positional
  else
    sign ++ (RoundingInterval.ofBinary (0x10000000000000 + fraction) ((exponent : Int) - 1075)
      (fraction == 0 && exponent != 1)).shortest.positional

end PathTemplate
