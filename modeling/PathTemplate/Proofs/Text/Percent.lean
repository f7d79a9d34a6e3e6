import PathTemplate.Text.Percent
import PathTemplate.Proofs.Text.Utf8

namespace PathTemplate
namespace Percent

/-!
# Percent-encoding loses nothing

Both readers, the strict one for segments and the lenient one for queries, give back the text that
was encoded.  The escapes of a character are read in front of an arbitrary rest, and the only thing
the readers look at ahead of time is the pair of digits behind a percent sign, so a text is read
character by character.

What encoded text consists of is stated by a single lemma, `mem_encode`.  That no separator of URLs
occurs in it follows for every separator at once.
-/

/-! ## Digits -/

theorem hexValue?_hexDigit {n : Nat} (small : n < 16) : hexValue? (hexDigit n) = some n := by
  revert n
  decide

theorem hexDigit_isAlphanum {n : Nat} (small : n < 16) : (hexDigit n).isAlphanum = true := by
  revert n
  decide

/-- The two digits of an escape spell its byte. -/
@[simp] theorem byte?_hexDigits (b : UInt8) :
    byte? (hexDigit (b.toNat / 16)) (hexDigit (b.toNat % 16)) = some b := by
  have bound : b.toNat < 256 := b.toNat_lt
  rw [byte?, hexValue?_hexDigit (by omega), hexValue?_hexDigit (by omega)]
  dsimp only
  rw [Nat.div_add_mod, UInt8.ofNat_toNat]

/-! ## What encoded text consists of -/

theorem mem_escapeByte {b : UInt8} {c : Char} (member : c ∈ escapeByte b) :
    c = '%' ∨ ∃ n, n < 16 ∧ c = hexDigit n := by
  have bound : b.toNat < 256 := b.toNat_lt
  rw [escapeByte, List.mem_cons, List.mem_cons, List.mem_singleton] at member
  rcases member with same | same | same
  · exact Or.inl same
  · exact Or.inr ⟨_, by omega, same⟩
  · exact Or.inr ⟨_, by omega, same⟩

/-- A character of encoded text was kept as it is, or it belongs to an escape. -/
theorem mem_encode {cs : List Char} {c : Char} (member : c ∈ encode cs) :
    (c ∈ cs ∧ isUnreserved c = true) ∨ c = '%' ∨ ∃ n, n < 16 ∧ c = hexDigit n := by
  rw [encode, List.mem_flatMap] at member
  rcases member with ⟨origin, listed, written⟩
  rw [encodeChar] at written
  split at written
  · rename_i kept
    rw [List.mem_singleton] at written
    exact Or.inl ⟨written ▸ listed, written ▸ kept⟩
  · rw [List.mem_flatMap] at written
    rcases written with ⟨b, _, escaped⟩
    exact Or.inr (mem_escapeByte escaped)

/-- Encoded text is made of unreserved characters and percent signs. -/
theorem encode_unreserved {cs : List Char} {c : Char} (member : c ∈ encode cs) :
    isUnreserved c = true ∨ c = '%' := by
  rcases mem_encode member with ⟨_, kept⟩ | percent | ⟨n, small, rfl⟩
  · exact Or.inl kept
  · exact Or.inr percent
  · refine Or.inl ?_
    rw [isUnreserved, hexDigit_isAlphanum small]
    rfl

/-- A character that is neither unreserved nor a percent sign does not occur in encoded text. -/
theorem not_mem_encode {cs : List Char} {c : Char} (reserved : isUnreserved c = false)
    (different : c ≠ '%') : c ∉ encode cs := by
  intro member
  rcases encode_unreserved member with kept | percent
  · rw [reserved] at kept
    exact absurd kept Bool.false_ne_true
  · exact different percent

/-- Escapes contain no dot, so encoding brings none in. -/
theorem dot_mem_encode {cs : List Char} (member : '.' ∈ encode cs) : '.' ∈ cs := by
  rcases mem_encode member with ⟨listed, _⟩ | percent | ⟨n, small, same⟩
  · exact listed
  · exact absurd percent (by decide)
  · have alphanum := hexDigit_isAlphanum small
    rw [← same] at alphanum
    exact absurd alphanum (by decide)

/-- Text that needs no escapes gets none. -/
theorem percent_not_mem_encode {cs : List Char} (unreserved : ∀ c ∈ cs, isUnreserved c = true) :
    '%' ∉ encode cs := by
  intro member
  rw [encode, List.mem_flatMap] at member
  rcases member with ⟨c, listed, written⟩
  have kept := unreserved c listed
  rw [encodeChar, if_pos kept, List.mem_singleton] at written
  rw [← written] at kept
  exact absurd kept (by decide)

theorem encodeChar_ne_nil (c : Char) : encodeChar c ≠ [] := by
  rw [encodeChar]
  split
  · exact List.cons_ne_nil _ _
  · cases bytes : Utf8.encodeChar c with
    | nil => exact absurd bytes (Utf8.encodeChar_ne_nil c)
    | cons b rest => exact List.cons_ne_nil _ _

theorem encode_ne_nil {cs : List Char} (nonempty : cs ≠ []) : encode cs ≠ [] := by
  cases cs with
  | nil => exact absurd rfl nonempty
  | cons c rest =>
      rw [encode, List.flatMap_cons]
      exact List.append_ne_nil_of_left_ne_nil (encodeChar_ne_nil c) _

/-! ## The strict reader -/

theorem bytes?_cons_of_ne {c : Char} (different : c ≠ '%') (rest : List Char) :
    bytes? (c :: rest) = (bytes? rest).map (Utf8.encodeChar c ++ ·) := by
  rw [bytes?.eq_3 _ _ (by rintro _ _ _ rfl _; exact different rfl), if_neg different]

private theorem bytes?_escapes (bytes : List UInt8) (rest : List Char) :
    bytes? (bytes.flatMap escapeByte ++ rest) = (bytes? rest).map (bytes ++ ·) := by
  induction bytes with
  | nil => exact Option.map_id'.symm
  | cons b tail inductionHypothesis =>
      simp [escapeByte, bytes?, inductionHypothesis, Function.comp_def]

@[simp] theorem bytes?_encodeChar (c : Char) (rest : List Char) :
    bytes? (encodeChar c ++ rest) = (bytes? rest).map (Utf8.encodeChar c ++ ·) := by
  rw [encodeChar]
  split
  · rename_i kept
    refine bytes?_cons_of_ne ?_ rest
    rintro rfl
    exact absurd kept (by decide)
  · exact bytes?_escapes _ rest

@[simp] theorem bytes?_encode_append (cs rest : List Char) :
    bytes? (encode cs ++ rest) = (bytes? rest).map (Utf8.encode cs ++ ·) := by
  induction cs with
  | nil => exact Option.map_id'.symm
  | cons c tail inductionHypothesis =>
      simp only [encode, Utf8.encode, List.flatMap_cons, List.append_assoc] at inductionHypothesis ⊢
      rw [bytes?_encodeChar, inductionHypothesis, Option.map_map]
      rfl

/-- An encoded text is read back as it was. -/
@[simp] theorem decode?_encode (cs : List Char) : decode? (encode cs) = some cs := by
  have bytes := bytes?_encode_append cs []
  rw [List.append_nil] at bytes
  simp [decode?, bytes, bytes?]

/-- Different texts are encoded differently. -/
theorem encode_inj {first second : List Char} (same : encode first = encode second) :
    first = second := by
  have read := congrArg decode? same
  simpa using read

private theorem eq_nil_of_bytes?_eq_some_nil {cs : List Char} (empty : bytes? cs = some []) :
    cs = [] := by
  fun_cases bytes? cs with
  | case1 => rfl
  | case2 a b rest x spelled =>
      rw [bytes?, spelled] at empty
      simp at empty
  | case3 a b rest refused =>
      rw [bytes?, refused] at empty
      exact absurd empty (by simp)
  | case4 rest alone =>
      rw [bytes?.eq_3 _ _ alone, if_pos rfl] at empty
      exact absurd empty (by simp)
  | case5 c rest alone different =>
      rw [bytes?_cons_of_ne different, Option.map_eq_some_iff] at empty
      rcases empty with ⟨bytes, _, nothing⟩
      exact absurd (List.append_eq_nil_iff.mp nothing).1 (Utf8.encodeChar_ne_nil c)

/-- No segment but the empty one is read as the empty text. -/
theorem eq_nil_of_decode?_eq_some_nil {cs : List Char} (empty : decode? cs = some []) :
    cs = [] := by
  rw [decode?, Option.bind_eq_some_iff] at empty
  rcases empty with ⟨bytes, read, text⟩
  rw [Utf8.eq_nil_of_decode?_eq_some_nil text] at read
  exact eq_nil_of_bytes?_eq_some_nil read

/-! ## The lenient reader -/

theorem lenientBytes_cons_of_ne {c : Char} (different : c ≠ '%') (rest : List Char) :
    lenientBytes (c :: rest) = Utf8.encodeChar c ++ lenientBytes rest := by
  rw [lenientBytes.eq_3 _ _ (by rintro _ _ _ rfl _; exact different rfl)]

private theorem lenientBytes_escapes (bytes : List UInt8) (rest : List Char) :
    lenientBytes (bytes.flatMap escapeByte ++ rest) = bytes ++ lenientBytes rest := by
  induction bytes with
  | nil => rfl
  | cons b tail inductionHypothesis =>
      simp only [List.flatMap_cons, escapeByte, List.cons_append, List.nil_append]
      rw [lenientBytes, byte?_hexDigits]
      exact congrArg _ inductionHypothesis

@[simp] theorem lenientBytes_encode (cs : List Char) :
    lenientBytes (encode cs) = Utf8.encode cs := by
  induction cs with
  | nil => rfl
  | cons c tail inductionHypothesis =>
      simp only [encode, Utf8.encode, List.flatMap_cons] at inductionHypothesis ⊢
      rw [encodeChar]
      split
      · rename_i kept
        rw [List.singleton_append, lenientBytes_cons_of_ne ?_, inductionHypothesis]
        rintro rfl
        exact absurd kept (by decide)
      · rw [lenientBytes_escapes, inductionHypothesis]

/-- What does not refuse anything reads encoded text like the strict reader. -/
@[simp] theorem decodeLenient_encode (cs : List Char) : decodeLenient (encode cs) = cs := by
  simp [decodeLenient]

end Percent
end PathTemplate
