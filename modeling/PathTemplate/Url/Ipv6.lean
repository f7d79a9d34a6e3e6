import PathTemplate.Text.Form

/-!
IPv6 addresses as they stand between the brackets of a URL: eight groups of up to four hexadecimal
digits, where one double colon stands for the groups left out and the last two groups may be written
as four decimal numbers.
-/

namespace PathTemplate
namespace Url
namespace Ipv6

/-- Whether a text is a decimal number up to 255 without needless zeros. -/
def isByte (cs : List Char) : Bool :=
  match cs with
  | [] => false
  | ['0'] => true
  | c :: _ =>
      c ≠ '0' && cs.length ≤ 3 && cs.all Char.isDigit &&
        cs.foldl (fun n c => 10 * n + (c.toNat - 0x30)) 0 ≤ 255

/-- Whether a text is four decimal numbers with dots in between. -/
def isDotted (cs : List Char) : Bool :=
  let parts := Form.pieces '.' cs
  parts.length == 4 && parts.all isByte

def isHex (c : Char) : Bool :=
  (Percent.hexValue? c).isSome

/-- The digits of the group at the start of a text, at most four. -/
def group (cs : List Char) : List Char :=
  (cs.take 4).takeWhile isHex

/-- Whether the groups of a text complete an address that has `count` groups already, where
`shortened` tells whether a double colon has been among them.  `fuel` bounds the groups to come. -/
def completes (fuel count : Nat) (shortened : Bool) (cs : List Char) : Bool :=
  match fuel, cs with
  | _, [] => shortened || count == 8
  | 0, _ => false
  | fuel + 1, ':' :: rest => !shortened && completes fuel (count + 1) true rest
  | fuel + 1, cs =>
      let digits := group cs
      match cs.drop digits.length with
      | [] => completes fuel (count + 1) shortened []
      | '.' :: _ =>
          digits ≠ [] && count ≤ 6 && isDotted cs && (shortened || count == 6)
      | ':' :: rest => rest ≠ [] && completes fuel (count + 1) shortened rest
      | _ => false

def isValid : List Char → Bool
  | ':' :: ':' :: rest => completes 7 1 true rest
  | ':' :: _ => false
  | cs => cs.length ≥ 2 && completes 8 0 false cs

end Ipv6
end Url
end PathTemplate
