import PathTemplate.Text.Utf8

namespace PathTemplate
namespace Utf8

/-!
# Reading back what UTF-8 writes

The decoder is a byte machine that knows nothing of the encoder's arithmetic.  What the two share is
the sequence of a character, which is told by its digits.  Here each of the four lengths of a
sequence is followed through the machine, in front of arbitrary further bytes, so that the statement
for a text is a plain induction over its characters.

The two decoders differ only in what they make of ill-formed stretches.  A text that was encoded
has none, so both return it.

The strict decoder accepts nothing else.  A character comes out of the machine only behind the bytes
that it is written with, so bytes are read as a text exactly if they are its encoding.  That is also
what the standard library calls valid.
-/

/-! ## Sequences -/

/-- The bytes of a character, told by its digits to the base 64.  The first digit is as great as the
number of bytes calls for, no character is a surrogate, and none lies beyond the last code point. -/
inductive Sequence : Char → List UInt8 → Prop where
  | one {first : Nat} (ascii : first < 0x80) : Sequence (Char.ofNat first) [UInt8.ofNat first]
  | two {first second : Nat} (long : 2 ≤ first) (small : first < 32) (fits : second < 64) :
      Sequence (Char.ofNat (first * 64 + second))
        [UInt8.ofNat (0xC0 + first), UInt8.ofNat (0x80 + second)]
  | three {first second third : Nat} (small : first < 16) (fits : second < 64)
      (fitsToo : third < 64) (long : first = 0 → 32 ≤ second)
      (noSurrogate : first = 13 → second < 32) :
      Sequence (Char.ofNat ((first * 64 + second) * 64 + third))
        [UInt8.ofNat (0xE0 + first), UInt8.ofNat (0x80 + second), UInt8.ofNat (0x80 + third)]
  | four {first second third fourth : Nat} (small : first < 5) (fits : second < 64)
      (fitsToo : third < 64) (fitsAlso : fourth < 64) (long : first = 0 → 16 ≤ second)
      (lastPlane : first = 4 → second < 16) :
      Sequence (Char.ofNat (((first * 64 + second) * 64 + third) * 64 + fourth))
        [UInt8.ofNat (0xF0 + first), UInt8.ofNat (0x80 + second), UInt8.ofNat (0x80 + third),
          UInt8.ofNat (0x80 + fourth)]

/-- No character is a surrogate, and none lies beyond the last code point. -/
theorem code_valid (c : Char) :
    c.toNat < 0xD800 ∨ (0xDFFF < c.toNat ∧ c.toNat < 0x110000) :=
  c.valid

private theorem toNat_ofNat {n : Nat} (valid : n < 0xD800 ∨ (0xDFFF < n ∧ n < 0x110000)) :
    (Char.ofNat n).toNat = n := by
  have isValid : n.isValidChar := valid
  rw [Char.ofNat, dif_pos isValid]
  rfl

namespace Sequence

/-- Every character has a sequence of its own. -/
private theorem exists_bytes (c : Char) : ∃ bytes, Sequence c bytes := by
  have valid := code_valid c
  have back : Char.ofNat c.toNat = c := Char.ofNat_toNat c
  generalize c.toNat = n at valid back
  subst back
  by_cases ascii : n < 0x80
  · exact ⟨_, .one ascii⟩
  by_cases below : n < 0x800
  · have digits : n / 64 * 64 + n % 64 = n := by omega
    have sequence := @two (n / 64) (n % 64) (by omega) (by omega) (by omega)
    rw [digits] at sequence
    exact ⟨_, sequence⟩
  by_cases basic : n < 0x10000
  · have digits : (n / 4096 * 64 + n / 64 % 64) * 64 + n % 64 = n := by omega
    have sequence := @three (n / 4096) (n / 64 % 64) (n % 64) (by omega) (by omega) (by omega)
      (by omega) (by omega)
    rw [digits] at sequence
    exact ⟨_, sequence⟩
  · have digits :
        ((n / 262144 * 64 + n / 4096 % 64) * 64 + n / 64 % 64) * 64 + n % 64 = n := by omega
    have sequence := @four (n / 262144) (n / 4096 % 64) (n / 64 % 64) (n % 64) (by omega)
      (by omega) (by omega) (by omega) (by omega) (by omega)
    rw [digits] at sequence
    exact ⟨_, sequence⟩

/-- The encoder writes the sequence of a character. -/
theorem eq_encodeChar {c : Char} {bytes : List UInt8} (sequence : Sequence c bytes) :
    bytes = encodeChar c := by
  cases sequence with
  | @one first ascii =>
      have code := toNat_ofNat (n := first) (by omega)
      rw [encodeChar, code, if_pos ascii]
  | @two first second long small fits =>
      have code := toNat_ofNat (n := first * 64 + second) (by omega)
      have leading : (first * 64 + second) / 64 = first := by omega
      have last : (first * 64 + second) % 64 = second := by omega
      rw [encodeChar, code, if_neg (by omega), if_pos (by omega), leading, last]
  | @three first second third small fits fitsToo long noSurrogate =>
      have code := toNat_ofNat (n := (first * 64 + second) * 64 + third) (by omega)
      have leading : ((first * 64 + second) * 64 + third) / 4096 = first := by omega
      have middle : ((first * 64 + second) * 64 + third) / 64 % 64 = second := by omega
      have last : ((first * 64 + second) * 64 + third) % 64 = third := by omega
      rw [encodeChar, code, if_neg (by omega), if_neg (by omega), if_pos (by omega)]
      simp only [leading, middle, last]
  | @four first second third fourth small fits fitsToo fitsAlso long lastPlane =>
      have code := toNat_ofNat (n := ((first * 64 + second) * 64 + third) * 64 + fourth) (by omega)
      have leading :
          (((first * 64 + second) * 64 + third) * 64 + fourth) / 262144 = first := by omega
      have high :
          (((first * 64 + second) * 64 + third) * 64 + fourth) / 4096 % 64 = second := by omega
      have middle :
          (((first * 64 + second) * 64 + third) * 64 + fourth) / 64 % 64 = third := by omega
      have last : (((first * 64 + second) * 64 + third) * 64 + fourth) % 64 = fourth := by omega
      rw [encodeChar, code, if_neg (by omega), if_neg (by omega), if_neg (by omega)]
      simp only [leading, high, middle, last]

theorem encodeChar (c : Char) : Sequence c (encodeChar c) := by
  rcases exists_bytes c with ⟨bytes, sequence⟩
  rw [← sequence.eq_encodeChar]
  exact sequence

end Sequence

/-! ## Single bytes -/

theorem toNat_byte {n : Nat} (small : n < 256) : (UInt8.ofNat n).toNat = n := by
  rw [UInt8.toNat_ofNat']
  exact Nat.mod_eq_of_lt small

private theorem start_one {first : Nat} (ascii : first < 0x80) :
    start (UInt8.ofNat first) = .done (Char.ofNat first) := by
  simp only [start, toNat_byte (show first < 256 by omega), if_pos ascii]

private theorem start_two {first : Nat} (long : 2 ≤ first) (small : first < 32) :
    start (UInt8.ofNat (0xC0 + first)) = .more ⟨1, 0x80, 0xBF, first⟩ := by
  simp only [start, toNat_byte (show 0xC0 + first < 256 by omega)]
  rw [if_neg (by omega), if_neg (by omega), if_pos (by omega), Nat.add_sub_cancel_left]

private theorem start_three {first : Nat} (small : first < 16) :
    start (UInt8.ofNat (0xE0 + first)) =
      .more ⟨2, if first = 0 then 0xA0 else 0x80, if first = 13 then 0x9F else 0xBF, first⟩ := by
  have lowest : 0xE0 + first = 0xE0 ↔ first = 0 := by omega
  have surrogates : 0xE0 + first = 0xED ↔ first = 13 := by omega
  simp only [start, toNat_byte (show 0xE0 + first < 256 by omega), lowest, surrogates]
  rw [if_neg (by omega), if_neg (by omega), if_neg (by omega), if_pos (by omega),
    Nat.add_sub_cancel_left]

private theorem start_four {first : Nat} (small : first < 5) :
    start (UInt8.ofNat (0xF0 + first)) =
      .more ⟨3, if first = 0 then 0x90 else 0x80, if first = 4 then 0x8F else 0xBF, first⟩ := by
  have lowest : 0xF0 + first = 0xF0 ↔ first = 0 := by omega
  have highest : 0xF0 + first = 0xF4 ↔ first = 4 := by omega
  simp only [start, toNat_byte (show 0xF0 + first < 256 by omega), lowest, highest]
  rw [if_neg (by omega), if_neg (by omega), if_neg (by omega), if_neg (by omega),
    if_pos (by omega), Nat.add_sub_cancel_left]

private theorem start_refused {n : Nat} (byte : n < 256)
    (stray : (0x80 ≤ n ∧ n < 0xC2) ∨ 0xF5 ≤ n) : start (UInt8.ofNat n) = .refused := by
  simp only [start, toNat_byte byte]
  rw [if_neg (by omega)]
  rcases stray with ⟨_, tail⟩ | above
  · rw [if_pos tail]
  · rw [if_neg (by omega), if_neg (by omega), if_neg (by omega), if_neg (by omega)]

/-- The last byte of a sequence completes the character. -/
private theorem next_last {low high bits digit : Nat} (fits : digit < 64)
    (above : low ≤ 0x80 + digit) (below : 0x80 + digit ≤ high) :
    (Pending.mk 1 low high bits).next (UInt8.ofNat (0x80 + digit)) =
      .done (Char.ofNat (bits * 64 + digit)) := by
  have value := toNat_byte (show 0x80 + digit < 256 by omega)
  simp only [Pending.next, value]
  rw [if_pos ⟨above, below⟩, if_pos (by omega), Nat.add_sub_cancel_left]

/-- Any other byte in its range shifts its bits in. -/
private theorem next_more {owed low high bits digit : Nat} (fits : digit < 64)
    (above : low ≤ 0x80 + digit) (below : 0x80 + digit ≤ high) :
    (Pending.mk (owed + 2) low high bits).next (UInt8.ofNat (0x80 + digit)) =
      .more ⟨owed + 1, 0x80, 0xBF, bits * 64 + digit⟩ := by
  have value := toNat_byte (show 0x80 + digit < 256 by omega)
  simp only [Pending.next, value]
  rw [if_pos ⟨above, below⟩, if_neg (by omega), Nat.add_sub_cancel_left]
  rfl

/-! ## Single characters -/

private theorem items_done {b : UInt8} {c : Char} (rest : List UInt8)
    (step : start b = .done c) : items none (b :: rest) = some c :: items none rest := by
  simp only [items, step, Step.andThen]

private theorem items_more {b : UInt8} {p : Pending} (rest : List UInt8)
    (step : start b = .more p) : items none (b :: rest) = items (some p) rest := by
  simp only [items, step, Step.andThen]

private theorem items_next_done {b : UInt8} {p : Pending} {c : Char} (rest : List UInt8)
    (step : p.next b = .done c) : items (some p) (b :: rest) = some c :: items none rest := by
  simp only [items, step, Step.andThen]

private theorem items_next_more {b : UInt8} {p q : Pending} (rest : List UInt8)
    (step : p.next b = .more q) : items (some p) (b :: rest) = items (some q) rest := by
  simp only [items, step, Step.andThen]

private theorem items_two {first second : Nat} (long : 2 ≤ first) (small : first < 32)
    (fits : second < 64) (rest : List UInt8) :
    items none (UInt8.ofNat (0xC0 + first) :: UInt8.ofNat (0x80 + second) :: rest) =
      some (Char.ofNat (first * 64 + second)) :: items none rest := by
  calc
    items none (UInt8.ofNat (0xC0 + first) :: UInt8.ofNat (0x80 + second) :: rest) =
        items (some ⟨1, 0x80, 0xBF, first⟩) (UInt8.ofNat (0x80 + second) :: rest) :=
      items_more _ (start_two long small)
    _ = some (Char.ofNat (first * 64 + second)) :: items none rest :=
      items_next_done rest (next_last fits (by omega) (by omega))

private theorem items_three {first second third : Nat} (small : first < 16) (fits : second < 64)
    (fitsToo : third < 64) (long : first = 0 → 32 ≤ second)
    (noSurrogate : first = 13 → second < 32) (rest : List UInt8) :
    items none (UInt8.ofNat (0xE0 + first) :: UInt8.ofNat (0x80 + second) ::
        UInt8.ofNat (0x80 + third) :: rest) =
      some (Char.ofNat ((first * 64 + second) * 64 + third)) :: items none rest := by
  calc
    items none (UInt8.ofNat (0xE0 + first) :: UInt8.ofNat (0x80 + second) ::
          UInt8.ofNat (0x80 + third) :: rest) =
        items (some ⟨2, if first = 0 then 0xA0 else 0x80, if first = 13 then 0x9F else 0xBF, first⟩)
          (UInt8.ofNat (0x80 + second) :: UInt8.ofNat (0x80 + third) :: rest) :=
      items_more _ (start_three small)
    _ = items (some ⟨1, 0x80, 0xBF, first * 64 + second⟩) (UInt8.ofNat (0x80 + third) :: rest) :=
      items_next_more _ (next_more fits (by split <;> omega) (by split <;> omega))
    _ = some (Char.ofNat ((first * 64 + second) * 64 + third)) :: items none rest :=
      items_next_done rest (next_last fitsToo (by omega) (by omega))

private theorem items_four {first second third fourth : Nat} (small : first < 5)
    (fits : second < 64) (fitsToo : third < 64) (fitsAlso : fourth < 64)
    (long : first = 0 → 16 ≤ second) (lastPlane : first = 4 → second < 16) (rest : List UInt8) :
    items none (UInt8.ofNat (0xF0 + first) :: UInt8.ofNat (0x80 + second) ::
        UInt8.ofNat (0x80 + third) :: UInt8.ofNat (0x80 + fourth) :: rest) =
      some (Char.ofNat (((first * 64 + second) * 64 + third) * 64 + fourth)) ::
        items none rest := by
  calc
    items none (UInt8.ofNat (0xF0 + first) :: UInt8.ofNat (0x80 + second) ::
          UInt8.ofNat (0x80 + third) :: UInt8.ofNat (0x80 + fourth) :: rest) =
        items (some ⟨3, if first = 0 then 0x90 else 0x80, if first = 4 then 0x8F else 0xBF, first⟩)
          (UInt8.ofNat (0x80 + second) :: UInt8.ofNat (0x80 + third) ::
            UInt8.ofNat (0x80 + fourth) :: rest) :=
      items_more _ (start_four small)
    _ = items (some ⟨2, 0x80, 0xBF, first * 64 + second⟩)
          (UInt8.ofNat (0x80 + third) :: UInt8.ofNat (0x80 + fourth) :: rest) :=
      items_next_more _ (next_more fits (by split <;> omega) (by split <;> omega))
    _ = items (some ⟨1, 0x80, 0xBF, (first * 64 + second) * 64 + third⟩)
          (UInt8.ofNat (0x80 + fourth) :: rest) :=
      items_next_more _ (next_more fitsToo (by omega) (by omega))
    _ = some (Char.ofNat (((first * 64 + second) * 64 + third) * 64 + fourth)) ::
          items none rest :=
      items_next_done rest (next_last fitsAlso (by omega) (by omega))

/-- A sequence in front of any bytes is read as its character, and nothing of what follows is
touched. -/
theorem Sequence.items_append {c : Char} {bytes : List UInt8} (sequence : Sequence c bytes)
    (rest : List UInt8) : items none (bytes ++ rest) = some c :: items none rest := by
  cases sequence with
  | one ascii => exact items_done rest (start_one ascii)
  | two long small fits => exact items_two long small fits rest
  | three small fits fitsToo long noSurrogate =>
      exact items_three small fits fitsToo long noSurrogate rest
  | four small fits fitsToo fitsAlso long lastPlane =>
      exact items_four small fits fitsToo fitsAlso long lastPlane rest

@[simp] theorem items_encodeChar (c : Char) (rest : List UInt8) :
    items none (encodeChar c ++ rest) = some c :: items none rest :=
  (Sequence.encodeChar c).items_append rest

/-- No character is written as nothing. -/
theorem encodeChar_ne_nil (c : Char) : encodeChar c ≠ [] := by
  simp only [encodeChar]
  split
  · exact List.cons_ne_nil _ _
  · split
    · exact List.cons_ne_nil _ _
    · split <;> exact List.cons_ne_nil _ _

/-! ## Texts -/

/-- Encoded text has no ill-formed stretch, and its items are its characters. -/
@[simp] theorem items_encode (cs : List Char) : items none (encode cs) = cs.map some := by
  induction cs with
  | nil => rfl
  | cons c rest inductionHypothesis =>
      rw [encode, List.flatMap_cons, items_encodeChar, List.map_cons]
      exact congrArg _ inductionHypothesis

/-- The strict decoder accepts bytes whose items are all characters, and no others. -/
theorem mapM_id_eq_some_iff {α : Type} (items : List (Option α)) (values : List α) :
    items.mapM id = some values ↔ items = values.map some := by
  induction items generalizing values with
  | nil => cases values <;> simp
  | cons head tail inductionHypothesis =>
      rw [List.mapM_cons]
      cases head with
      | none => cases values <;> simp
      | some value =>
          cases values with
          | nil => simp [Option.bind_eq_some_iff]
          | cons first rest =>
              simp only [id_eq, Option.bind_eq_bind, Option.bind_some, Option.pure_def,
                Option.bind_eq_some_iff, Option.some.injEq, List.map_cons, List.cons.injEq,
                inductionHypothesis]
              constructor
              · rintro ⟨others, same, rfl, rfl⟩
                exact ⟨rfl, same⟩
              · rintro ⟨rfl, same⟩
                exact ⟨rest, same, rfl, rfl⟩

theorem decode?_eq_some_iff (bytes : List UInt8) (cs : List Char) :
    decode? bytes = some cs ↔ items none bytes = cs.map some :=
  mapM_id_eq_some_iff _ _

/-- The strict decoder undoes the encoder. -/
@[simp] theorem decode?_encode (cs : List Char) : decode? (encode cs) = some cs := by
  rw [decode?_eq_some_iff, items_encode]

/-- The replacing decoder has nothing to replace in encoded text. -/
@[simp] theorem decodeLossy_encode (cs : List Char) : decodeLossy (encode cs) = cs := by
  simp [decodeLossy, Function.comp_def]

/-! ## Bytes are not lost altogether -/

private theorem items_pending_ne_nil (bytes : List UInt8) (p : Pending) :
    items (some p) bytes ≠ [] := by
  induction bytes generalizing p with
  | nil => exact List.cons_ne_nil _ _
  | cons b rest inductionHypothesis =>
      cases step : p.next b with
      | done c => simp only [items, step, Step.andThen, ne_eq, reduceCtorEq, not_false_eq_true]
      | more q => simpa only [items, step, Step.andThen] using inductionHypothesis q
      | refused => simp only [items, step, ne_eq, reduceCtorEq, not_false_eq_true]

/-- Bytes that are read as the empty text are no bytes at all. -/
theorem eq_nil_of_decode?_eq_some_nil {bytes : List UInt8} (empty : decode? bytes = some []) :
    bytes = [] := by
  rw [decode?_eq_some_iff] at empty
  cases bytes with
  | nil => rfl
  | cons b rest =>
      cases step : start b with
      | done c => simp [items, step, Step.andThen] at empty
      | more p =>
          rw [items_more rest step] at empty
          exact absurd empty (items_pending_ne_nil rest p)
      | refused => simp [items, step, Step.andThen] at empty

/-! ## Which bytes are accepted

The machine is followed backwards: a character that comes out tells the sequence that went in.  The
first byte tells how long it is, so there is one case for each length. -/

/-- A sequence that goes on to a character goes on with a byte in its range. -/
private theorem exists_digit {p : Pending} {bytes : List UInt8} {c : Char}
    {after : List (Option Char)} (floor : 0x80 ≤ p.low)
    (read : items (some p) bytes = some c :: after) :
    ∃ digit rest, bytes = UInt8.ofNat (0x80 + digit) :: rest ∧
      p.low ≤ 0x80 + digit ∧ 0x80 + digit ≤ p.high := by
  cases bytes with
  | nil => cases read
  | cons b rest =>
      by_cases within : p.low ≤ b.toNat ∧ b.toNat ≤ p.high
      · have split : 0x80 + (b.toNat - 0x80) = b.toNat := by omega
        refine ⟨b.toNat - 0x80, rest, ?_, ?_⟩
        · rw [split, UInt8.ofNat_toNat]
        · rw [split]
          exact within
      · have refused : p.next b = .refused := by
          simp only [Pending.next, if_neg within]
        simp only [items, refused] at read
        cases read

private theorem exists_last {low high bits : Nat} {bytes : List UInt8} {c : Char}
    {after : List (Option Char)} (floor : 0x80 ≤ low) (ceiling : high ≤ 0xBF)
    (read : items (some ⟨1, low, high, bits⟩) bytes = some c :: after) :
    ∃ digit rest, bytes = UInt8.ofNat (0x80 + digit) :: rest ∧ digit < 64 ∧
      c = Char.ofNat (bits * 64 + digit) ∧ items none rest = after := by
  rcases exists_digit floor read with ⟨digit, rest, rfl, above, below⟩
  dsimp only at above below
  rw [items_next_done rest (next_last (by omega) above below)] at read
  have parts := List.cons.inj read
  exact ⟨digit, rest, rfl, by omega, (Option.some.inj parts.1).symm, parts.2⟩

private theorem exists_more {owed low high bits : Nat} {bytes : List UInt8} {c : Char}
    {after : List (Option Char)} (floor : 0x80 ≤ low) (ceiling : high ≤ 0xBF)
    (read : items (some ⟨owed + 2, low, high, bits⟩) bytes = some c :: after) :
    ∃ digit rest, bytes = UInt8.ofNat (0x80 + digit) :: rest ∧ digit < 64 ∧
      low ≤ 0x80 + digit ∧ 0x80 + digit ≤ high ∧
      items (some ⟨owed + 1, 0x80, 0xBF, bits * 64 + digit⟩) rest = some c :: after := by
  rcases exists_digit floor read with ⟨digit, rest, rfl, above, below⟩
  dsimp only at above below
  rw [items_next_more rest (next_more (by omega) above below)] at read
  exact ⟨digit, rest, rfl, by omega, above, below, read⟩

private theorem items_refused {b : UInt8} (rest : List UInt8) (step : start b = .refused) :
    items none (b :: rest) = none :: items none rest := by
  simp only [items, step, Step.andThen]

private theorem exists_one {first : Nat} (ascii : first < 0x80) {tail : List UInt8} {c : Char}
    {after : List (Option Char)} (read : items none (UInt8.ofNat first :: tail) = some c :: after) :
    ∃ front rest, UInt8.ofNat first :: tail = front ++ rest ∧ Sequence c front ∧
      items none rest = after := by
  rw [items_done tail (start_one ascii)] at read
  have parts := List.cons.inj read
  rw [← Option.some.inj parts.1]
  exact ⟨[UInt8.ofNat first], tail, rfl, .one ascii, parts.2⟩

private theorem exists_two {first : Nat} (long : 2 ≤ first) (small : first < 32)
    {tail : List UInt8} {c : Char} {after : List (Option Char)}
    (read : items none (UInt8.ofNat (0xC0 + first) :: tail) = some c :: after) :
    ∃ front rest, UInt8.ofNat (0xC0 + first) :: tail = front ++ rest ∧ Sequence c front ∧
      items none rest = after := by
  rw [items_more tail (start_two long small)] at read
  rcases exists_last (by omega) (by omega) read with ⟨second, rest, rfl, fits, rfl, later⟩
  exact ⟨[_, _], rest, rfl, .two long small fits, later⟩

private theorem exists_three {first : Nat} (small : first < 16) {tail : List UInt8} {c : Char}
    {after : List (Option Char)}
    (read : items none (UInt8.ofNat (0xE0 + first) :: tail) = some c :: after) :
    ∃ front rest, UInt8.ofNat (0xE0 + first) :: tail = front ++ rest ∧ Sequence c front ∧
      items none rest = after := by
  rw [items_more tail (start_three small)] at read
  rcases exists_more (by split <;> omega) (by split <;> omega) read with
    ⟨second, more, rfl, fits, above, below, further⟩
  rcases exists_last (by omega) (by omega) further with ⟨third, rest, rfl, fitsToo, rfl, later⟩
  have long : first = 0 → 32 ≤ second := by
    split at above <;> omega
  have noSurrogate : first = 13 → second < 32 := by
    split at below <;> omega
  exact ⟨[_, _, _], rest, rfl, .three small fits fitsToo long noSurrogate, later⟩

private theorem exists_four {first : Nat} (small : first < 5) {tail : List UInt8} {c : Char}
    {after : List (Option Char)}
    (read : items none (UInt8.ofNat (0xF0 + first) :: tail) = some c :: after) :
    ∃ front rest, UInt8.ofNat (0xF0 + first) :: tail = front ++ rest ∧ Sequence c front ∧
      items none rest = after := by
  rw [items_more tail (start_four small)] at read
  rcases exists_more (by split <;> omega) (by split <;> omega) read with
    ⟨second, more, rfl, fits, above, below, further⟩
  rcases exists_more (by omega) (by omega) further with
    ⟨third, most, rfl, fitsToo, -, -, furthest⟩
  rcases exists_last (by omega) (by omega) furthest with
    ⟨fourth, rest, rfl, fitsAlso, rfl, later⟩
  have long : first = 0 → 16 ≤ second := by
    split at above <;> omega
  have lastPlane : first = 4 → second < 16 := by
    split at below <;> omega
  exact ⟨[_, _, _, _], rest, rfl, .four small fits fitsToo fitsAlso long lastPlane, later⟩

/-- A character that is read stands in front of what is read after it. -/
theorem exists_of_items {bytes : List UInt8} {c : Char} {after : List (Option Char)}
    (read : items none bytes = some c :: after) :
    ∃ front rest, bytes = front ++ rest ∧ Sequence c front ∧ items none rest = after := by
  cases bytes with
  | nil => cases read
  | cons b tail =>
      have bound : b.toNat < 256 := b.toNat_lt
      have byte : UInt8.ofNat b.toNat = b := UInt8.ofNat_toNat
      generalize b.toNat = n at bound byte
      subst byte
      by_cases one : n < 0x80
      · exact exists_one one read
      by_cases stray : n < 0xC2 ∨ 0xF5 ≤ n
      · rw [items_refused tail (start_refused bound (by omega))] at read
        cases read
      by_cases two : n < 0xE0
      · obtain ⟨first, rfl⟩ : ∃ first, n = 0xC0 + first := ⟨n - 0xC0, by omega⟩
        exact exists_two (by omega) (by omega) read
      by_cases three : n < 0xF0
      · obtain ⟨first, rfl⟩ : ∃ first, n = 0xE0 + first := ⟨n - 0xE0, by omega⟩
        exact exists_three (by omega) read
      · obtain ⟨first, rfl⟩ : ∃ first, n = 0xF0 + first := ⟨n - 0xF0, by omega⟩
        exact exists_four (by omega) read

/-- The strict decoder reads the bytes of a text, and no others, as that text. -/
theorem decode?_eq_some_iff_encode {bytes : List UInt8} {cs : List Char} :
    decode? bytes = some cs ↔ bytes = encode cs := by
  constructor
  · intro decoded
    induction cs generalizing bytes with
    | nil => exact eq_nil_of_decode?_eq_some_nil decoded
    | cons c cs inductionHypothesis =>
        rw [decode?_eq_some_iff, List.map_cons] at decoded
        rcases exists_of_items decoded with ⟨front, rest, rfl, sequence, later⟩
        rw [inductionHypothesis ((decode?_eq_some_iff rest cs).mpr later), sequence.eq_encodeChar]
        rfl
  · intro written
    rw [written, decode?_encode]

/-! ## The encoding of the standard library -/

/-- A character has the bytes that the standard library gives it. -/
theorem encodeChar_eq (c : Char) : encodeChar c = String.utf8EncodeChar c := by
  have valid : c.val.toNat < 0xD800 ∨ (0xDFFF < c.val.toNat ∧ c.val.toNat < 0x110000) := c.valid
  unfold encodeChar String.utf8EncodeChar Char.toNat
  dsimp only
  generalize c.val.toNat = n at valid
  by_cases one : n < 0x80
  · rw [if_pos one, if_pos (by omega)]
  have tail : ∀ digit, digit + 128 = 0x80 + digit := fun digit => Nat.add_comm digit 128
  by_cases two : n < 0x800
  · have leading : n / 64 % 32 + 192 = 0xC0 + n / 64 := by omega
    rw [if_neg one, if_pos two, if_neg (by omega), if_pos (by omega), leading, tail]
  by_cases three : n < 0x10000
  · have leading : n / 4096 % 16 + 224 = 0xE0 + n / 4096 := by omega
    rw [if_neg one, if_neg two, if_pos three, if_neg (by omega), if_neg (by omega),
      if_pos (by omega)]
    simp only [leading, tail]
  · have leading : n / 262144 % 8 + 240 = 0xF0 + n / 262144 := by omega
    rw [if_neg one, if_neg two, if_neg three, if_neg (by omega), if_neg (by omega),
      if_neg (by omega)]
    simp only [leading, tail]

theorem toByteArray_encode (cs : List Char) : (encode cs).toByteArray = cs.utf8Encode := by
  rw [encode, List.utf8Encode, funext encodeChar_eq]

/-- What the strict decoder accepts is what the standard library calls valid. -/
theorem exists_decode?_iff_isValidUTF8 {bytes : List UInt8} :
    (∃ cs, decode? bytes = some cs) ↔ bytes.toByteArray.IsValidUTF8 := by
  constructor
  · rintro ⟨cs, decoded⟩
    rw [decode?_eq_some_iff_encode.mp decoded, toByteArray_encode]
    exact ⟨cs, rfl⟩
  · rintro ⟨cs, written⟩
    rw [← toByteArray_encode, List.toByteArray_inj] at written
    exact ⟨cs, decode?_eq_some_iff_encode.mpr written⟩

/-! ## Order

Texts are in the same order as their bytes: of two sequences the longer one has the greater first
byte, and those of one length are compared digit by digit. -/

/-- Bytes in front are compared first, and what follows counts only where they are the same. -/
private theorem cons_lt_cons_of_le {m n : Nat} {first second : List UInt8} (below : m ≤ n)
    (small : n < 256) (tie : m = n → first < second) :
    UInt8.ofNat m :: first < UInt8.ofNat n :: second := by
  rw [List.cons_lt_cons_iff]
  rcases Nat.lt_or_eq_of_le below with less | rfl
  · left
    rw [UInt8.lt_iff_toNat_lt, toNat_byte (by omega), toNat_byte small]
    exact less
  · exact Or.inr ⟨rfl, tie rfl⟩

private theorem cons_lt_cons_of_lt {m n : Nat} {first second : List UInt8} (less : m < n)
    (small : n < 256) : UInt8.ofNat m :: first < UInt8.ofNat n :: second :=
  cons_lt_cons_of_le (Nat.le_of_lt less) small (fun tie => absurd tie (Nat.ne_of_lt less))

/-- The bytes of a smaller character are smaller, whatever comes after them. -/
theorem encodeChar_append_lt {c d : Char} (less : c < d) (first second : List UInt8) :
    encodeChar c ++ first < encodeChar d ++ second := by
  have codes : c.toNat < d.toNat := less
  have bound := code_valid d
  simp only [encodeChar]
  generalize c.toNat = m at codes
  generalize d.toNat = n at codes bound
  by_cases one : m < 0x80
  · rw [if_pos one]
    split
    · exact cons_lt_cons_of_lt codes (by omega)
    · split
      · exact cons_lt_cons_of_lt (by omega) (by omega)
      · split <;> exact cons_lt_cons_of_lt (by omega) (by omega)
  rw [if_neg one, if_neg (show ¬ n < 0x80 by omega)]
  by_cases two : m < 0x800
  · rw [if_pos two]
    split
    · apply cons_lt_cons_of_le (by omega) (by omega)
      intro tie
      exact cons_lt_cons_of_lt (by omega) (by omega)
    · split <;> exact cons_lt_cons_of_lt (by omega) (by omega)
  rw [if_neg two, if_neg (show ¬ n < 0x800 by omega)]
  by_cases three : m < 0x10000
  · rw [if_pos three]
    split
    · apply cons_lt_cons_of_le (by omega) (by omega)
      intro tie
      apply cons_lt_cons_of_le (by omega) (by omega)
      intro tieToo
      exact cons_lt_cons_of_lt (by omega) (by omega)
    · exact cons_lt_cons_of_lt (by omega) (by omega)
  · rw [if_neg three, if_neg (show ¬ n < 0x10000 by omega)]
    apply cons_lt_cons_of_le (by omega) (by omega)
    intro tie
    apply cons_lt_cons_of_le (by omega) (by omega)
    intro tieToo
    apply cons_lt_cons_of_le (by omega) (by omega)
    intro tieAgain
    exact cons_lt_cons_of_lt (by omega) (by omega)

/-- The bytes of a smaller text are smaller. -/
theorem encode_lt_encode {first second : List Char} (less : first < second) :
    encode first < encode second := by
  induction second generalizing first with
  | nil => cases less
  | cons d second inductionHypothesis =>
      cases first with
      | nil =>
          cases bytes : encodeChar d with
          | nil => exact absurd bytes (encodeChar_ne_nil d)
          | cons b rest =>
              rw [encode, encode, List.flatMap_cons, bytes]
              exact List.nil_lt_cons _ _
      | cons c first =>
          rw [encode, encode, List.flatMap_cons, List.flatMap_cons]
          rcases List.cons_lt_cons_iff.mp less with smaller | ⟨rfl, later⟩
          · exact encodeChar_append_lt smaller _ _
          · exact List.append_left_lt (inductionHypothesis later)

end Utf8
end PathTemplate
