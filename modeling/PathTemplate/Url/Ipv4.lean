import PathTemplate.Text.Form

/-!
IPv4 addresses in the liberal notation of URLs: up to four numbers, each decimal, octal behind a
zero, or hexadecimal behind `0x`, of which the last fills all the bytes that are left.
-/

namespace PathTemplate
namespace Url
namespace Ipv4

def isDigit (base : Nat) (c : Char) : Bool :=
  (Percent.hexValue? c).any (· < base)

/-- The number written in the given base.  No digits are zero. -/
def numberIn? (base : Nat) (cs : List Char) : Option Nat :=
  if cs.all (isDigit base) then
    some (cs.foldl (fun n c => n * base + (Percent.hexValue? c).getD 0) 0)
  else none

/-- The number written by one part of an address. -/
def number? : List Char → Option Nat
  | [] => none
  | '0' :: 'x' :: rest => numberIn? 16 rest
  | '0' :: 'X' :: rest => numberIn? 16 rest
  | ['0'] => some 0
  | '0' :: rest => numberIn? 8 rest
  | cs => numberIn? 10 cs

/-- The parts of a host between its dots; one dot at the very end does not count. -/
def parts (host : List Char) : List (List Char) :=
  let all := Form.pieces '.' host
  if all.getLast? = some [] then all.dropLast else all

/-- Whether a host can only be an address, because its last part is a number. -/
def isMeant (host : List Char) : Bool :=
  match (parts host).getLast? with
  | none => false
  | some part => (part ≠ [] && part.all Char.isDigit) || (number? part).isSome

def isValid (host : List Char) : Bool :=
  let all := parts host
  match all.mapM number? with
  | none => false
  | some numbers =>
      numbers.length ≤ 4 && numbers.dropLast.all (· ≤ 255) &&
        (numbers.getLast?.any (· < Nat.pow 256 (5 - numbers.length)))

end Ipv4
end Url
end PathTemplate
