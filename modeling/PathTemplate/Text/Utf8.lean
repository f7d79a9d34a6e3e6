/-!
UTF-8.  Encoding is by arithmetic on code points.  Decoding reads one byte at a time and yields a
character for each well-formed sequence and a mark for each longest start of one that is cut short
or stands outside any sequence, so that a strict and a replacing decoder are two readings of the
same items.
-/

namespace PathTemplate
namespace Utf8

def encodeChar (c : Char) : List UInt8 :=
  let n := c.toNat
  if n < 0x80 then [UInt8.ofNat n]
  else if n < 0x800 then [UInt8.ofNat (0xC0 + n / 64), UInt8.ofNat (0x80 + n % 64)]
  else if n < 0x10000 then
    [UInt8.ofNat (0xE0 + n / 4096), UInt8.ofNat (0x80 + n / 64 % 64), UInt8.ofNat (0x80 + n % 64)]
  else
    [UInt8.ofNat (0xF0 + n / 262144), UInt8.ofNat (0x80 + n / 4096 % 64),
      UInt8.ofNat (0x80 + n / 64 % 64), UInt8.ofNat (0x80 + n % 64)]

def encode (cs : List Char) : List UInt8 :=
  cs.flatMap encodeChar

/-- A sequence that has begun: how many bytes it still needs, the range the next one must be in, and
the bits read so far. -/
structure Pending where
  owed : Nat
  low : Nat
  high : Nat
  bits : Nat

/-- What a byte does to a sequence. -/
inductive Step where
  /-- It completes a character. -/
  | done (c : Char)
  /-- More bytes are needed. -/
  | more (p : Pending)
  /-- It cannot stand here. -/
  | refused

/-- A byte at the start of a sequence.  The second byte is confined so that no sequence is longer
than it need be, none encodes a surrogate, and none goes beyond the last code point. -/
def start (b : UInt8) : Step :=
  let n := b.toNat
  if n < 0x80 then .done (Char.ofNat n)
  else if n < 0xC2 then .refused
  else if n < 0xE0 then .more ⟨1, 0x80, 0xBF, n - 0xC0⟩
  else if n < 0xF0 then
    .more ⟨2, if n = 0xE0 then 0xA0 else 0x80, if n = 0xED then 0x9F else 0xBF, n - 0xE0⟩
  else if n < 0xF5 then
    .more ⟨3, if n = 0xF0 then 0x90 else 0x80, if n = 0xF4 then 0x8F else 0xBF, n - 0xF0⟩
  else .refused

/-- A byte within a sequence. -/
def Pending.next (p : Pending) (b : UInt8) : Step :=
  let n := b.toNat
  if p.low ≤ n ∧ n ≤ p.high then
    let bits := p.bits * 64 + (n - 0x80)
    if p.owed ≤ 1 then .done (Char.ofNat bits) else .more ⟨p.owed - 1, 0x80, 0xBF, bits⟩
  else .refused

/-- Record a step and go on with what follows it. -/
def Step.andThen (s : Step) (rest : Option Pending → List (Option Char)) : List (Option Char) :=
  match s with
  | done c => some c :: rest none
  | more p => rest (some p)
  | refused => none :: rest none

/-- The characters of a byte sequence, with `none` for each ill-formed stretch.  A byte that breaks
a sequence off is read again as the start of another. -/
def items : Option Pending → List UInt8 → List (Option Char)
  | none, [] => []
  | some _, [] => [none]
  | none, b :: rest => (start b).andThen (fun p => items p rest)
  | some p, b :: rest =>
      match p.next b with
      | .refused => none :: (start b).andThen (fun p => items p rest)
      | s => s.andThen (fun p => items p rest)

/-- The text of well-formed bytes. -/
def decode? (bytes : List UInt8) : Option (List Char) :=
  (items none bytes).mapM id

/-- The text of any bytes, with U+FFFD in place of each ill-formed stretch. -/
def decodeLossy (bytes : List UInt8) : List Char :=
  (items none bytes).map (·.getD '\uFFFD')

end Utf8
end PathTemplate
