import PathTemplate.Proofs.Text.Percent

namespace PathTemplate
namespace Percent

/-!
# Which segments are decoded

The strict reader and the lenient one agree on the bytes of a segment.  They differ in what they
refuse: the lenient one lets a percent sign stand for itself where no escape follows, and the strict
one gives up there.  So a segment is decoded exactly if each of its percent signs begins an escape and
the bytes of the lenient reader are valid UTF-8, and then it is the text that has these bytes.

Escapes do not overlap, since a percent sign is no hexadecimal digit.  A percent sign may therefore be
judged by the two characters behind it, wherever in the segment it stands.

A decoded text is encoded as a segment with the same bytes, which need not be the same segment: the
segment may spell out a character that needs no escape, or use other digits.
-/

/-- Two hexadecimal digits come first. -/
def StartsWithDigits (cs : List Char) : Prop :=
  ∃ high low after, cs = high :: low :: after ∧ high.isHexDigit = true ∧ low.isHexDigit = true

/-- Every percent sign has two hexadecimal digits behind it. -/
def IsWellEscaped (cs : List Char) : Prop :=
  ∀ before rest, cs = before ++ '%' :: rest → StartsWithDigits rest

/-! ## Digits -/

/-- Digits are what has a value. -/
theorem exists_hexValue?_iff {c : Char} : (∃ n, hexValue? c = some n) ↔ c.isHexDigit = true := by
  have digit : c.isHexDigit = true ↔ (0x30 ≤ c.toNat ∧ c.toNat ≤ 0x39) ∨
      (0x61 ≤ c.toNat ∧ c.toNat ≤ 0x66) ∨ (0x41 ≤ c.toNat ∧ c.toNat ≤ 0x46) := by
    simp only [Char.isHexDigit, Char.isDigit, Bool.or_eq_true, Bool.and_eq_true, decide_eq_true_eq,
      ge_iff_le, UInt32.le_iff_toNat_le, or_assoc]
    rfl
  rw [digit, hexValue?]
  split
  · rename_i decimal
    exact iff_of_true ⟨_, rfl⟩ (Or.inl decimal)
  · split
    · rename_i upper
      exact iff_of_true ⟨_, rfl⟩ (Or.inr (Or.inr upper))
    · split
      · rename_i lower
        exact iff_of_true ⟨_, rfl⟩ (Or.inr (Or.inl lower))
      · apply iff_of_false
        · rintro ⟨n, nothing⟩
          cases nothing
        · omega

theorem exists_byte?_iff {high low : Char} :
    (∃ x, byte? high low = some x) ↔ high.isHexDigit = true ∧ low.isHexDigit = true := by
  rw [← exists_hexValue?_iff, ← exists_hexValue?_iff, byte?]
  cases hexValue? high with
  | none => simp
  | some first => cases hexValue? low <;> simp

theorem ne_percent_of_isHexDigit {c : Char} (digit : c.isHexDigit = true) : c ≠ '%' := by
  rintro rfl
  exact absurd digit (by decide)

/-! ## Percent signs -/

theorem isWellEscaped_nil : IsWellEscaped [] := by
  intro before rest split
  exact absurd split.symm (List.append_ne_nil_of_right_ne_nil _ (List.cons_ne_nil _ _))

theorem isWellEscaped_cons_iff {c : Char} {cs : List Char} :
    IsWellEscaped (c :: cs) ↔ (c = '%' → StartsWithDigits cs) ∧ IsWellEscaped cs := by
  constructor
  · intro wellEscaped
    constructor
    · rintro rfl
      exact wellEscaped [] cs rfl
    · intro before rest split
      exact wellEscaped (c :: before) rest (congrArg (c :: ·) split)
  · rintro ⟨here, later⟩ before rest split
    cases before with
    | nil =>
        rcases List.cons.inj split with ⟨rfl, rfl⟩
        exact here rfl
    | cons first before => exact later before rest (List.cons.inj split).2

theorem isWellEscaped_escape_iff {high low : Char} {rest : List Char}
    (digit : high.isHexDigit = true) (digitToo : low.isHexDigit = true) :
    IsWellEscaped ('%' :: high :: low :: rest) ↔ IsWellEscaped rest := by
  have plain : (high = '%' → StartsWithDigits (low :: rest)) ∧ (low = '%' → StartsWithDigits rest) :=
    ⟨fun same => absurd same (ne_percent_of_isHexDigit digit),
      fun same => absurd same (ne_percent_of_isHexDigit digitToo)⟩
  have starts : StartsWithDigits (high :: low :: rest) := ⟨high, low, rest, rfl, digit, digitToo⟩
  rw [isWellEscaped_cons_iff, isWellEscaped_cons_iff, isWellEscaped_cons_iff,
    and_iff_right (fun _ => starts), and_iff_right plain.1, and_iff_right plain.2]

/-! ## The two readers -/

/-- The strict reader finds the bytes of the lenient one, or refuses a percent sign. -/
theorem bytes?_eq_some_iff {cs : List Char} {bytes : List UInt8} :
    bytes? cs = some bytes ↔ IsWellEscaped cs ∧ lenientBytes cs = bytes := by
  induction cs using bytes?.induct generalizing bytes with
  | case1 => simp [bytes?, lenientBytes, isWellEscaped_nil]
  | case2 high low rest x spelled inductionHypothesis =>
      have digits := exists_byte?_iff.mp ⟨x, spelled⟩
      rw [bytes?, spelled, isWellEscaped_escape_iff digits.1 digits.2, lenientBytes, spelled]
      dsimp only
      rw [Option.map_eq_some_iff]
      constructor
      · rintro ⟨later, read, rfl⟩
        have parts := inductionHypothesis.mp read
        exact ⟨parts.1, congrArg (x :: ·) parts.2⟩
      · rintro ⟨wellEscaped, rfl⟩
        exact ⟨_, inductionHypothesis.mpr ⟨wellEscaped, rfl⟩, rfl⟩
  | case3 high low rest refused =>
      rw [bytes?, refused, isWellEscaped_cons_iff]
      apply iff_of_false (Option.some_ne_none bytes).symm
      rintro ⟨⟨starts, -⟩, -⟩
      rcases starts rfl with ⟨_, _, _, ⟨⟩, digit, digitToo⟩
      rcases exists_byte?_iff.mpr ⟨digit, digitToo⟩ with ⟨x, spelled⟩
      rw [refused] at spelled
      cases spelled
  | case4 rest alone =>
      rw [bytes?.eq_3 _ _ alone, if_pos rfl, isWellEscaped_cons_iff]
      apply iff_of_false (Option.some_ne_none bytes).symm
      rintro ⟨⟨starts, -⟩, -⟩
      rcases starts rfl with ⟨high, low, after, rfl, -, -⟩
      exact alone high low after rfl rfl
  | case5 c rest alone different inductionHypothesis =>
      rw [bytes?_cons_of_ne different, lenientBytes_cons_of_ne different, isWellEscaped_cons_iff,
        and_iff_right (fun same => absurd same different), Option.map_eq_some_iff]
      constructor
      · rintro ⟨later, read, rfl⟩
        have parts := inductionHypothesis.mp read
        exact ⟨parts.1, congrArg (Utf8.encodeChar c ++ ·) parts.2⟩
      · rintro ⟨wellEscaped, rfl⟩
        exact ⟨_, inductionHypothesis.mpr ⟨wellEscaped, rfl⟩, rfl⟩

/-- A segment is decoded to the text that has its bytes. -/
theorem decode?_eq_some_iff {segment text : List Char} :
    decode? segment = some text ↔
      IsWellEscaped segment ∧ lenientBytes segment = Utf8.encode text := by
  rw [decode?, Option.bind_eq_some_iff]
  simp only [bytes?_eq_some_iff, Utf8.decode?_eq_some_iff_encode]
  constructor
  · rintro ⟨bytes, ⟨wellEscaped, read⟩, written⟩
    exact ⟨wellEscaped, read.trans written⟩
  · rintro ⟨wellEscaped, read⟩
    exact ⟨_, ⟨wellEscaped, read⟩, rfl⟩

theorem exists_decode?_iff {segment : List Char} :
    (∃ text, decode? segment = some text) ↔
      IsWellEscaped segment ∧ (lenientBytes segment).toByteArray.IsValidUTF8 := by
  simp only [decode?_eq_some_iff, ← Utf8.exists_decode?_iff_isValidUTF8,
    Utf8.decode?_eq_some_iff_encode, exists_and_left]

theorem isWellEscaped_encode (text : List Char) : IsWellEscaped (encode text) :=
  (decode?_eq_some_iff.mp (decode?_encode text)).1

/-- Encoding is undone by decoding, and it uses unreserved characters and escapes only.  A segment is
not decoded exactly if one of its percent signs begins no escape or if its bytes are not valid UTF-8.
Otherwise it is decoded to the text that has these bytes, which is empty only if the segment is, and
which comes back when it is encoded and decoded. -/
theorem decode?_reads_exactly :
    (∀ text, decode? (encode text) = some text ∧
      (∀ c ∈ encode text, c.isAlphanum = true ∨ c ∈ ['-', '_', '.', '~'] ∨ c = '%') ∧
      IsWellEscaped (encode text)) ∧
    ∀ segment,
      (decode? segment = none ↔
        ¬ IsWellEscaped segment ∨ ¬ (lenientBytes segment).toByteArray.IsValidUTF8) ∧
      ∀ text,
        (decode? segment = some text ↔
          IsWellEscaped segment ∧ text.utf8Encode = (lenientBytes segment).toByteArray) ∧
        (decode? segment = some text →
          (segment ≠ [] → text ≠ []) ∧ decode? (encode text) = some text) := by
  constructor
  · intro text
    refine ⟨decode?_encode text, ?_, isWellEscaped_encode text⟩
    intro c member
    rcases encode_unreserved member with kept | percent
    · simpa [isUnreserved, or_assoc] using Or.inl kept
    · exact Or.inr (Or.inr percent)
  · intro segment
    constructor
    · rw [← Classical.not_and_iff_not_or_not, ← exists_decode?_iff,
        Option.eq_none_iff_forall_ne_some, not_exists]
    · intro text
      constructor
      · rw [decode?_eq_some_iff, ← Utf8.toByteArray_encode, List.toByteArray_inj,
          eq_comm (a := Utf8.encode text)]
      · intro decoded
        refine ⟨?_, decode?_encode text⟩
        rintro nonempty rfl
        exact nonempty (eq_nil_of_decode?_eq_some_nil decoded)

/-- A segment with escapes in either case, a raw character of more than one byte and an escaped
percent sign; a percent sign in front of an escape; and an escape of half a character. -/
theorem decode?_reads_exactly_mixed :
    let segment := "€%c3%A9%2525".toList
    let text := "€é%25".toList
    decode? segment = some text ∧ segment ≠ [] ∧ text ≠ [] ∧
      IsWellEscaped segment ∧ text.utf8Encode = (lenientBytes segment).toByteArray ∧
      decode? (encode text) = some text ∧
      ¬ IsWellEscaped "%%41".toList ∧ decode? "%%41".toList = none ∧
      decode? "%C3(".toList = none ∧
      (¬ IsWellEscaped "%C3(".toList ∨ ¬ (lenientBytes "%C3(".toList).toByteArray.IsValidUTF8) := by
  intro segment text
  have decoded : decode? segment = some text := by decide +kernel
  have nonempty : segment ≠ [] := by decide
  have read := (decode?_reads_exactly.2 segment).2 text
  have told := read.2 decoded
  have doubled : ¬ IsWellEscaped "%%41".toList := by
    intro wellEscaped
    rcases wellEscaped [] "%41".toList rfl with ⟨_, _, _, ⟨⟩, digit, -⟩
    exact absurd digit (by decide)
  have halved : decode? "%C3(".toList = none := by decide +kernel
  exact ⟨decoded, nonempty, told.1 nonempty, (read.1.mp decoded).1, (read.1.mp decoded).2, told.2,
    doubled, (decode?_reads_exactly.2 _).1.mpr (Or.inl doubled), halved,
    (decode?_reads_exactly.2 _).1.mp halved⟩

end Percent
end PathTemplate
