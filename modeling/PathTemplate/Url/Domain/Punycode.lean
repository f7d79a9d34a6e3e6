/-!
Reading Punycode: a text outside ASCII written with ASCII letters and digits.  The ASCII characters
come first, as they are; behind the last hyphen follow the others, each as the distance to it in an
enumeration of all insertions by character and place.  A distance is a number in base 36 whose last
digit is recognized by being below a threshold, and the thresholds adapt to the distances read.
-/

namespace PathTemplate
namespace Url
namespace Punycode

/-- The value of a digit; letters come before decimal digits. -/
def digit? (c : Char) : Option Nat :=
  let n := c.toNat
  if 0x61 ≤ n ∧ n ≤ 0x7A then some (n - 0x61)
  else if 0x41 ≤ n ∧ n ≤ 0x5A then some (n - 0x41)
  else if 0x30 ≤ n ∧ n ≤ 0x39 then some (n - 0x30 + 26)
  else none

/-- The threshold of the digit at position `k`, counted in steps of 36. -/
def threshold (k bias : Nat) : Nat :=
  if k ≤ bias then 1 else if bias + 26 ≤ k then 26 else k - bias

/-- Scale a distance down until it is small, counting the steps. -/
def scaleDown (delta steps : Nat) : Nat × Nat :=
  if 455 < delta then scaleDown (delta / 35) (steps + 1) else (delta, steps)
termination_by delta
decreasing_by exact Nat.div_lt_self (by omega) (by omega)

/-- The bias after a distance, given the length of the text by then. -/
def adapt (delta length : Nat) (first : Bool) : Nat :=
  let damped := if first then delta / 700 else delta / 2
  let (small, steps) := scaleDown (damped + damped / length) 0
  36 * steps + 36 * small / (small + 38)

/-- What has been read: the text so far, the character and place to count on from, the bias, and
whether nothing has been inserted yet. -/
structure State where
  text : List Char
  code : Nat
  place : Nat
  bias : Nat
  first : Bool

/-- Insert the character that lies `delta` further in the enumeration. -/
def State.insert? (s : State) (delta : Nat) : Option State :=
  let length := s.text.length + 1
  let position := s.place + delta
  let code := s.code + position / length
  let place := position % length
  if code.isValidChar then
    some
      { text := s.text.take place ++ Char.ofNat code :: s.text.drop place
        code := code
        place := place + 1
        bias := adapt delta length s.first
        first := false }
  else none

/-- Read distances, where `delta` is the part of the present one that has been read, and its next
digit counts `weight` and is at position `k`.  Numbers of more than 32 bits are refused. -/
def run (s : State) (delta weight k : Nat) : List Char → Option (List Char)
  | [] => if k = 36 then some s.text else none
  | c :: rest =>
      match digit? c with
      | none => none
      | some d =>
          let delta := delta + d * weight
          let t := threshold k s.bias
          if 0x100000000 ≤ s.place + delta then none
          else if d < t then
            match s.insert? delta with
            | some next => run next 0 1 36 rest
            | none => none
          else if 0x100000000 ≤ weight * (36 - t) then none
          else run s delta (weight * (36 - t)) (k + 36) rest

def decode? (cs : List Char) : Option (List Char) :=
  let before := (cs.reverse.dropWhile (· ≠ '-')).drop 1
  let digits := if before = [] then cs else cs.drop (before.length + 1)
  run ⟨before.reverse, 128, 0, 72, true⟩ 0 1 36 digits

end Punycode
end Url
end PathTemplate
