import PathTemplate.Text.Utf8

/-!
Percent-encoding of UTF-8 text.  Writing keeps the unreserved characters and escapes every other
byte; reading a segment accepts nothing but well-formed escapes that spell UTF-8.
-/

namespace PathTemplate
namespace Percent

/-- The characters that are never escaped: ASCII letters, digits, and `- _ . ~`. -/
def isUnreserved (c : Char) : Bool :=
  c.isAlphanum || c == '-' || c == '_' || c == '.' || c == '~'

/-- The upper-case hexadecimal digit of a number below sixteen. -/
def hexDigit (n : Nat) : Char :=
  Char.ofNat (if n < 10 then 0x30 + n else 0x37 + n)

def hexValue? (c : Char) : Option Nat :=
  let n := c.toNat
  if 0x30 ≤ n ∧ n ≤ 0x39 then some (n - 0x30)
  else if 0x41 ≤ n ∧ n ≤ 0x46 then some (n - 0x37)
  else if 0x61 ≤ n ∧ n ≤ 0x66 then some (n - 0x57)
  else none

def escapeByte (b : UInt8) : List Char :=
  ['%', hexDigit (b.toNat / 16), hexDigit (b.toNat % 16)]

/-- A character of encoded text: itself if unreserved, the escapes of its bytes otherwise. -/
def encodeChar (c : Char) : List Char :=
  if isUnreserved c then [c] else (Utf8.encodeChar c).flatMap escapeByte

def encode (cs : List Char) : List Char :=
  cs.flatMap encodeChar

/-- The byte spelled by two hexadecimal digits. -/
def byte? (a b : Char) : Option UInt8 :=
  match hexValue? a, hexValue? b with
  | some x, some y => some (UInt8.ofNat (16 * x + y))
  | _, _ => none

/-- The bytes of an encoded text, provided two hexadecimal digits follow every percent sign. -/
def bytes? : List Char → Option (List UInt8)
  | [] => some []
  | '%' :: a :: b :: rest =>
      match byte? a b with
      | some x => (bytes? rest).map (x :: ·)
      | none => none
  | c :: rest => if c = '%' then none else (bytes? rest).map (Utf8.encodeChar c ++ ·)

/-- The text of an encoded segment. -/
def decode? (cs : List Char) : Option (List Char) :=
  (bytes? cs).bind Utf8.decode?

/-- The bytes of a text in which a percent sign without two hexadecimal digits stands for itself. -/
def lenientBytes : List Char → List UInt8
  | [] => []
  | '%' :: a :: b :: rest =>
      match byte? a b with
      | some x => x :: lenientBytes rest
      | none => 0x25 :: lenientBytes (a :: b :: rest)
  | c :: rest => Utf8.encodeChar c ++ lenientBytes rest

/-- The text that a lenient reader sees: no escape is refused, and ill-formed bytes are replaced. -/
def decodeLenient (cs : List Char) : List Char :=
  Utf8.decodeLossy (lenientBytes cs)

end Percent
end PathTemplate
