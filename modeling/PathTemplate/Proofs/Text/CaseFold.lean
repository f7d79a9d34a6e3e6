import PathTemplate.Text.CaseFold

namespace PathTemplate
namespace CaseFold

/-!
# Folding leaves punctuation alone

The characters that give a path its structure have no letter case, and no letter folds to one of
them.  The reason is a bound on the table: everything it maps to lies behind the letter `j`, so a
folded form in front of that comes from ASCII, where folding is a shift of the capital letters.

A folded character is not folded any further.  The table maps into the gaps between its runs, or in
between the characters of a run that has every second character only.
-/

theorem agree_self (caseSensitive : Bool) (c : Char) : agree caseSensitive c c = true := by
  cases caseSensitive <;> simp [agree]

theorem agree_comm (caseSensitive : Bool) (c d : Char) :
    agree caseSensitive c d = agree caseSensitive d c := by
  cases caseSensitive with
  | true => exact Bool.beq_comm
  | false => exact Bool.beq_comm

/-- In ASCII, folding is a shift of the capital letters. -/
theorem foldCode_ascii {n : Nat} (ascii : n < 0x80) :
    foldCode n = if 0x41 ≤ n ∧ n ≤ 0x5A then n + 0x20 else n := by
  rw [foldCode, if_pos ascii]

private theorem target_bound : ∀ r ∈ runs, 0x6B ≤ r.target := by
  decide +kernel

/-- Outside ASCII nothing folds to the beginning of the alphabet, or to what stands before it. -/
theorem ascii_of_foldCode_lt {n : Nat} (low : foldCode n < 0x6B) : n < 0x80 := by
  refine Nat.lt_of_not_le (fun high => ?_)
  rw [foldCode, if_neg (Nat.not_lt_of_le high)] at low
  cases covering : runs.find? (·.covers n) with
  | none =>
      rw [covering] at low
      dsimp only at low
      omega
  | some r =>
      rw [covering] at low
      have bound := target_bound r (List.mem_of_find?_eq_some covering)
      dsimp only at low
      omega

/-- A character other than the null character is only folded to by way of its code point. -/
private theorem foldCode_of_fold_eq {c d : Char} (nonzero : c.toNat ≠ 0) (same : fold d = c) :
    foldCode d.toNat = c.toNat := by
  rw [fold, Char.ofNat] at same
  by_cases valid : (foldCode d.toNat).isValidChar
  · rw [dif_pos valid] at same
    exact congrArg Char.toNat same
  · rw [dif_neg valid] at same
    exact absurd (congrArg Char.toNat same).symm nonzero

/-- Characters in front of the capital letters are folded to by themselves alone. -/
theorem fold_eq_iff {c d : Char} (nonzero : c.toNat ≠ 0) (low : c.toNat < 0x41) :
    fold d = c ↔ d = c := by
  constructor
  · intro same
    have code := foldCode_of_fold_eq nonzero same
    have ascii := ascii_of_foldCode_lt (n := d.toNat) (by omega)
    rw [foldCode_ascii ascii] at code
    have equal : d.toNat = c.toNat := by
      split at code <;> omega
    exact Char.toNat_inj.mp equal
  · rintro rfl
    rw [fold, foldCode_ascii (by omega), if_neg (by omega), Char.ofNat_toNat]

/-- Whether case counts or not, such a character agrees with itself alone. -/
theorem agree_iff {c : Char} (nonzero : c.toNat ≠ 0) (low : c.toNat < 0x41) (caseSensitive : Bool)
    (d : Char) : agree caseSensitive c d = true ↔ d = c := by
  cases caseSensitive with
  | true => rw [agree, if_pos rfl, beq_iff_eq, eq_comm]
  | false =>
      have own : fold c = c := (fold_eq_iff nonzero low).mpr rfl
      rw [agree, if_neg Bool.false_ne_true, own, beq_iff_eq, eq_comm, fold_eq_iff nonzero low]

theorem agree_slash (caseSensitive : Bool) (d : Char) :
    agree caseSensitive '/' d = true ↔ d = '/' :=
  agree_iff (by decide) (by decide) caseSensitive d

/-- What agrees with an ASCII character up to case is folded to the same code point. -/
theorem foldCode_eq_of_agree {c d : Char} (nonzero : d.toNat ≠ 0) (ascii : d.toNat < 0x80)
    (agrees : agree false c d = true) : foldCode c.toNat = foldCode d.toNat := by
  have bounds : foldCode d.toNat ≠ 0 ∧ foldCode d.toNat < 0x100 := by
    rw [foldCode_ascii ascii]
    split <;> omega
  have code : (fold d).toNat = foldCode d.toNat := by
    rw [fold, Char.ofNat, dif_pos (Or.inl (by omega))]
    rfl
  rw [agree, if_neg Bool.false_ne_true, beq_iff_eq] at agrees
  rw [← code]
  exact foldCode_of_fold_eq (by omega) agrees

/-! ## Folding twice -/

/-- The characters that a run maps to are not those of another run: they are all in front of it or
all behind it, or the characters of the two take turns. -/
def Run.misses (r other : Run) : Bool :=
  (r.target + (r.last - r.first)).blt other.first || other.last.blt r.target ||
    (other.step == 2 && (r.step == 2 || r.first == r.last) && (r.target + other.first) % 2 == 1)

theorem Run.not_covers_of_misses {r other : Run} (misses : r.misses other = true) {n : Nat}
    (covers : r.covers n = true) : other.covers (r.target + (n - r.first)) = false := by
  apply Bool.eq_false_iff.mpr
  intro again
  simp only [Run.covers, Run.misses, Bool.and_eq_true, Bool.or_eq_true, decide_eq_true_eq,
    beq_iff_eq, Nat.blt_eq] at misses covers again
  rcases misses with (before | behind) | ⟨⟨every, steps | single⟩, odd⟩
  · omega
  · omega
  · rw [every] at again
    rw [steps] at covers
    omega
  · rw [every] at again
    omega

private theorem runs_miss_runs : (runs.all fun r => runs.all r.misses) = true := by
  decide +kernel

theorem foldCode_foldCode (n : Nat) : foldCode (foldCode n) = foldCode n := by
  by_cases ascii : n < 0x80
  · have small : foldCode n < 0x80 := by
      rw [foldCode_ascii ascii]
      split <;> omega
    rw [foldCode_ascii small]
    apply if_neg
    rw [foldCode_ascii ascii]
    split <;> omega
  · cases covering : runs.find? (·.covers n) with
    | none =>
        have same : foldCode n = n := by rw [foldCode, if_neg ascii, covering]
        rw [same, same]
    | some r =>
        have member := List.mem_of_find?_eq_some covering
        have covers := List.find?_some covering
        have mapped : foldCode n = r.target + (n - r.first) := by
          rw [foldCode, if_neg ascii, covering]
        rw [mapped]
        by_cases small : r.target + (n - r.first) < 0x80
        · have bound := target_bound r member
          rw [foldCode_ascii small]
          exact if_neg (by omega)
        · have uncovered : runs.find? (·.covers (r.target + (n - r.first))) = none := by
            apply List.find?_eq_none.mpr
            intro other listed
            have misses := List.all_eq_true.mp (List.all_eq_true.mp runs_miss_runs r member)
            rw [Run.not_covers_of_misses (misses other listed) covers]
            exact Bool.false_ne_true
          rw [foldCode, if_neg small, uncovered]

/-- A folded character is as it is. -/
theorem fold_fold (c : Char) : fold (fold c) = fold c := by
  by_cases valid : (foldCode c.toNat).isValidChar
  · have code : (fold c).toNat = foldCode c.toNat := by
      rw [fold, Char.ofNat, dif_pos valid]
      rfl
    rw [fold, code, foldCode_foldCode, fold]
  · have null : fold c = Char.ofNat 0 := by
      rw [fold, Char.ofNat, dif_neg valid]
      rfl
    rw [null]
    rfl

/-- Up to case, a character is no different from its folded form. -/
theorem agree_fold (c d : Char) : agree false c (fold d) = agree false c d := by
  simp only [agree, Bool.false_eq_true, if_false, fold_fold]

theorem agree_of_caseSensitive {c d : Char} (agrees : agree true c d = true)
    (caseSensitive : Bool) : agree caseSensitive c d = true := by
  have same : c = d := beq_iff_eq.mp agrees
  rw [same]
  exact agree_self caseSensitive d

end CaseFold
end PathTemplate
