import PathTemplate.Text.CaseFold.Runs

/-!
Comparing text without regard to letter case.  Folding is character by character, so it never
changes the length of a text; letters whose only folded form is longer stay as they are.
-/

namespace PathTemplate
namespace CaseFold

def foldCode (n : Nat) : Nat :=
  if n < 0x80 then
    if 0x41 ≤ n ∧ n ≤ 0x5A then n + 0x20 else n
  else
    match runs.find? (·.covers n) with
    | some r => r.target + (n - r.first)
    | none => n

def fold (c : Char) : Char :=
  Char.ofNat (foldCode c.toNat)

/-- Whether two characters are the same letter, up to case unless `caseSensitive`. -/
def agree (caseSensitive : Bool) (a b : Char) : Bool :=
  if caseSensitive then a == b else fold a == fold b

end CaseFold
end PathTemplate
