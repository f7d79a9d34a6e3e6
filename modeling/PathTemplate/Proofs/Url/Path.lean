import PathTemplate.Url.Path
import PathTemplate.Proofs.Text.Form
import PathTemplate.Proofs.Text.Intact

namespace PathTemplate
namespace Url

/-!
# Which paths an absolute URL leaves as they are

The path of an absolute URL is resolved: segments of one or two dots are taken out of it, and with
two dots goes the segment in front of them.  A path in which nothing has to be escaped is otherwise
kept, so it comes back as it was exactly if it has no segment of that kind.

Dots may be written as escapes.  Where all escapes are those that percent-encoding writes, none of
them stands for a dot, since a dot is never escaped.  Paths of files are not treated here, because
of their drives.
-/

/-- A text in which no character has to be escaped is kept. -/
theorem flatMap_escapeChar_eq_self {escaped text : List Char}
    (kept : ∀ c ∈ text, escapeChar escaped c = [c]) : text.flatMap (escapeChar escaped) = text := by
  induction text with
  | nil => rfl
  | cons c rest inductionHypothesis =>
      have each := List.forall_mem_cons.mp kept
      rw [List.flatMap_cons, each.1, inductionHypothesis each.2]
      rfl

namespace Path

open Percent (Intact)

/-! ## Segments of dots -/

/-- A segment that stands for another place. -/
def IsDots (segment : List Char) : Prop :=
  segment = ['.'] ∨ segment = ['.', '.']

instance : DecidablePred IsDots := fun segment =>
  inferInstanceAs (Decidable (segment = ['.'] ∨ segment = ['.', '.']))

/-- No segment of a path stands for another place. -/
def IsResolved (path : List Char) : Prop :=
  ∀ segment ∈ Form.pieces '/' path, ¬ IsDots segment

instance : DecidablePred IsResolved := fun path =>
  inferInstanceAs (Decidable (∀ segment ∈ Form.pieces '/' path, ¬ IsDots segment))

theorem isResolved_cons_slash {path : List Char} : IsResolved ('/' :: path) ↔ IsResolved path := by
  have cut : Form.pieces '/' ('/' :: path) = [] :: Form.pieces '/' path := if_pos rfl
  unfold IsResolved
  rw [cut, List.forall_mem_cons]
  constructor
  · intro both
    exact both.2
  · intro later
    exact ⟨by decide, later⟩

/-- A stretch without slashes is a single segment. -/
theorem isResolved_of_not_mem {segment : List Char} (noSlash : '/' ∉ segment)
    (different : ¬ IsDots segment) : IsResolved segment := by
  intro piece member
  rw [Form.pieces_of_not_mem '/' noSlash, List.mem_singleton] at member
  subst member
  exact different

theorem isResolved_of_noDot {path : List Char} (noDot : '.' ∉ path) : IsResolved path := by
  intro segment member
  rcases Form.exists_append_of_mem_pieces member with ⟨-, before, after, rfl, -, -⟩
  rw [List.mem_append, List.mem_append, not_or, not_or] at noDot
  rintro (rfl | rfl)
  · exact noDot.2.1 List.mem_cons_self
  · exact noDot.2.1 List.mem_cons_self

/-- Dots on both sides of a seam make dots together only if they were dots before, since one dot
and one dot are two segments that were not allowed. -/
private theorem isDots_of_append {first second : List Char} (dots : IsDots (first ++ second)) :
    IsDots first ∨ IsDots second := by
  cases first with
  | nil => exact Or.inr dots
  | cons c first =>
      cases first with
      | nil =>
          rcases dots with one | two
          · exact Or.inl (Or.inl (congrArg ([·]) (List.cons.inj one).1))
          · exact Or.inl (Or.inl (congrArg ([·]) (List.cons.inj two).1))
      | cons d first =>
          rcases dots with one | two
          · cases (List.cons.inj one).2
          · have behind := List.cons.inj (List.cons.inj two).2
            have nothing := (List.append_eq_nil_iff.mp behind.2).1
            rw [(List.cons.inj two).1, behind.1, nothing]
            exact Or.inl (Or.inr rfl)

theorem IsResolved.append {first second : List Char} (one : IsResolved first)
    (other : IsResolved second) : IsResolved (first ++ second) := by
  rcases List.eq_nil_or_concat (Form.pieces '/' first) with nothing | ⟨before, last, ends⟩
  · exact absurd nothing (Form.pieces_ne_nil '/' first)
  rcases List.exists_cons_of_ne_nil (Form.pieces_ne_nil '/' second) with ⟨head, after, starts⟩
  unfold IsResolved at one other ⊢
  rw [ends, List.concat_eq_append] at one
  rw [List.concat_eq_append] at ends
  rw [starts] at other
  rw [Form.pieces_append_pieces ends starts]
  intro segment member
  rcases List.mem_append.mp member with early | late
  · exact one segment (List.mem_append_left _ early)
  · rcases List.mem_cons.mp late with rfl | later
    · intro dots
      rcases isDots_of_append dots with inLast | inHead
      · exact one last (List.mem_append_right _ List.mem_cons_self) inLast
      · exact other head List.mem_cons_self inHead
    · exact other segment (List.mem_cons_of_mem _ later)

/-! ## Dots and escapes -/

/-- The first byte of a character that is not ASCII is not ASCII. -/
private theorem exists_encodeChar (c : Char) :
    ∃ b bytes, Utf8.encodeChar c = b :: bytes ∧ (b.toNat < 0x80 → b.toNat = c.toNat) := by
  have bound := Utf8.code_valid c
  simp only [Utf8.encodeChar]
  generalize c.toNat = n at bound
  split
  · refine ⟨_, _, rfl, fun _ => Utf8.toNat_byte (by omega)⟩
  · split
    · refine ⟨_, _, rfl, ?_⟩
      rw [Utf8.toNat_byte (by omega)]
      omega
    · split
      · refine ⟨_, _, rfl, ?_⟩
        rw [Utf8.toNat_byte (by omega)]
        omega
      · refine ⟨_, _, rfl, ?_⟩
        rw [Utf8.toNat_byte (by omega)]
        omega

/-- The escapes of a character that has to be escaped do not stand for a dot. -/
private theorem dots?_escaped {c : Char} (reserved : Percent.isUnreserved c = false)
    (rest : List Char) : dots? (Percent.encodeChar c ++ rest) = none := by
  rcases exists_encodeChar c with ⟨b, bytes, written, ascii⟩
  have bound : b.toNat < 256 := b.toNat_lt
  have notDot : ¬ (b.toNat / 16 = 2 ∧ b.toNat % 16 = 14) := by
    rintro ⟨high, low⟩
    have code : c.toNat = '.'.toNat := by
      rw [← ascii (by omega)]
      change b.toNat = 46
      omega
    rw [Char.toNat_inj.mp code] at reserved
    exact absurd reserved (by decide)
  have two : ∀ n < 16, Percent.hexDigit n = '2' → n = 2 := by decide
  have fourteen : ∀ n < 16, Percent.hexDigit n = 'e' ∨ Percent.hexDigit n = 'E' → n = 14 := by
    decide
  rw [Percent.encodeChar, reserved, if_neg Bool.false_ne_true, written, List.flatMap_cons,
    Percent.escapeByte]
  simp only [List.cons_append, List.nil_append]
  unfold dots?
  split
  · rename_i nothing
    cases nothing
  · rename_i dot
    exact absurd (List.cons.inj dot).1 (by decide)
  · rename_i first third more escape
    injection escape with _ digits
    injection digits with high lower
    injection lower with low _
    apply if_neg
    intro letter
    rw [← low] at letter
    exact notDot ⟨two _ (by omega) high, fourteen _ (by omega) letter⟩
  · rfl

private theorem dots?_cons_of_ne {c : Char} (notDot : c ≠ '.') (notPercent : c ≠ '%')
    (rest : List Char) : dots? (c :: rest) = none := by
  unfold dots?
  split
  · rename_i nothing
    cases nothing
  · rename_i dot
    exact absurd (List.cons.inj dot).1 notDot
  · rename_i escape
    exact absurd (List.cons.inj escape).1 notPercent
  · rfl

/-- In text whose escapes are whole, only dots stand for dots. -/
theorem dots?_eq_some_iff {segment : List Char} (intact : Intact segment) {n : Nat} :
    dots? segment = some n ↔ segment = List.replicate n '.' := by
  induction intact generalizing n with
  | nil => cases n <;> simp [dots?, List.replicate_succ]
  | @kept c rest different _ inductionHypothesis =>
      by_cases dot : c = '.'
      · subst dot
        cases n with
        | zero => simp [dots?]
        | succ n => simp [dots?, List.replicate_succ, inductionHypothesis]
      · rw [dots?_cons_of_ne dot different]
        cases n with
        | zero => simp
        | succ n => simp [List.replicate_succ, dot]
  | @escaped c rest reserved _ _ =>
      rw [dots?_escaped reserved]
      constructor
      · intro impossible
        cases impossible
      · intro dots
        have first : ∀ d ∈ Percent.encodeChar c, d = '.' := by
          intro d member
          have within := List.mem_append_left rest member
          rw [dots] at within
          exact List.eq_of_mem_replicate within
        rw [Percent.encodeChar, reserved, if_neg Bool.false_ne_true] at first
        cases written : Utf8.encodeChar c with
        | nil => exact absurd written (Utf8.encodeChar_ne_nil c)
        | cons b bytes =>
            rw [written] at first
            exact absurd (first '%' List.mem_cons_self) (by decide)

/-! ## Resolving -/

variable {s : Scheme}

theorem segments_eq_pieces {cs : List Char} (noBackslash : '\\' ∉ cs) :
    segments s cs = Form.pieces '/' cs := by
  induction cs with
  | nil => rfl
  | cons c rest inductionHypothesis =>
      rw [List.mem_cons, not_or] at noBackslash
      rw [segments, Form.pieces, inductionHypothesis noBackslash.2]
      by_cases slash : c = '/'
      · have separates : s.isSlash c = true := by
          rw [slash]
          rfl
        rw [if_pos separates, if_pos slash]
      · have within : ¬ s.isSlash c = true := by
          simp [Scheme.isSlash, slash, Ne.symm noBackslash.1]
        exact (if_neg within).trans (if_neg slash).symm

/-- Cutting a path and writing its segments gives the path back, behind a slash. -/
theorem write_pieces (cs : List Char) : write (Form.pieces '/' cs) = '/' :: cs := by
  induction cs with
  | nil => rfl
  | cons c rest inductionHypothesis =>
      rw [Form.pieces]
      by_cases slash : c = '/'
      · rw [if_pos slash, slash]
        exact congrArg ('/' :: ·) inductionHypothesis
      · rw [if_neg slash]
        cases cut : Form.pieces '/' rest with
        | nil => exact absurd cut (Form.pieces_ne_nil '/' rest)
        | cons segment more =>
            rw [cut] at inductionHypothesis
            have behind := (List.cons.inj inductionHypothesis).2
            exact congrArg (fun text => '/' :: c :: text) behind

/-- The segments that were written are found again. -/
theorem pieces_append_write {segment : List Char} {segments : List (List Char)}
    (noSlash : ∀ other ∈ segment :: segments, '/' ∉ other) :
    Form.pieces '/' (segment ++ write segments) = segment :: segments := by
  have here := List.forall_mem_cons.mp noSlash
  induction segments generalizing segment with
  | nil =>
      change Form.pieces '/' (segment ++ []) = [segment]
      rw [List.append_nil, Form.pieces_of_not_mem '/' here.1]
  | cons next segments inductionHypothesis =>
      change Form.pieces '/' (segment ++ '/' :: (next ++ write segments)) = _
      rw [Form.pieces_append '/' here.1,
        inductionHypothesis here.2 (List.forall_mem_cons.mp here.2)]

theorem write_inj {segments others : List (List Char)} (nonempty : segments ≠ [])
    (nonemptyToo : others ≠ []) (noSlash : ∀ segment ∈ segments, '/' ∉ segment)
    (noSlashToo : ∀ segment ∈ others, '/' ∉ segment) (same : write segments = write others) :
    segments = others := by
  rcases List.exists_cons_of_ne_nil nonempty with ⟨segment, more, rfl⟩
  rcases List.exists_cons_of_ne_nil nonemptyToo with ⟨other, rest, rfl⟩
  have behind : segment ++ write more = other ++ write rest := (List.cons.inj same).2
  rw [← pieces_append_write noSlash, behind, pieces_append_write noSlashToo]

private theorem keep_eq (notFile : s ≠ .file) (before : List (List Char)) (segment : List Char) :
    keep s before segment = escape segment :: before := by
  simp [keep, notFile]

theorem mem_dropLast {before : List (List Char)} {segment : List Char}
    (member : segment ∈ dropLast s before) : segment ∈ before := by
  cases before with
  | nil => cases member
  | cons last before =>
      rw [dropLast] at member
      split at member
      · exact member
      · exact List.mem_cons_of_mem _ member

/-- Segments that do not stand for another place are kept in their order. -/
theorem resolve_eq (notFile : s ≠ .file) {segments : List (List Char)}
    (plain : ∀ segment ∈ segments, dots? segment ≠ some 1 ∧ dots? segment ≠ some 2)
    (before : List (List Char)) :
    resolve s before segments = before.reverse ++ segments.map escape := by
  induction segments generalizing before with
  | nil => exact (List.append_nil _).symm
  | cons segment segments inductionHypothesis =>
      have each := List.forall_mem_cons.mp plain
      rw [resolve]
      split
      · rename_i one
        exact absurd one each.1.1
      · rename_i two
        exact absurd two each.1.2
      · rw [keep_eq notFile, inductionHypothesis each.2, List.reverse_cons, List.append_assoc]
        rfl

/-- A segment that is left stood in front, or it was kept, or it is the empty one that dots leave at
the very end. -/
theorem mem_resolve (notFile : s ≠ .file) {segments before : List (List Char)}
    {segment : List Char} (member : segment ∈ resolve s before segments) :
    segment = [] ∨ segment ∈ before ∨ ∃ origin ∈ segments, dots? origin ≠ some 1 ∧
      dots? origin ≠ some 2 ∧ segment = escape origin := by
  induction segments generalizing before with
  | nil => exact Or.inr (Or.inl (List.mem_reverse.mp member))
  | cons first segments inductionHypothesis =>
      have later {others : List (List Char)} (left : segment ∈ resolve s others segments)
          (within : segment ∈ others → segment ∈ before ∨ segment = escape first ∧
            dots? first ≠ some 1 ∧ dots? first ≠ some 2) :
          segment = [] ∨ segment ∈ before ∨ ∃ origin ∈ first :: segments, dots? origin ≠ some 1 ∧
            dots? origin ≠ some 2 ∧ segment = escape origin := by
        rcases inductionHypothesis left with empty | earlier | ⟨origin, listed, kept⟩
        · exact Or.inl empty
        · rcases within earlier with earlier | ⟨same, one, two⟩
          · exact Or.inr (Or.inl earlier)
          · exact Or.inr (Or.inr ⟨first, List.mem_cons_self, one, two, same⟩)
        · exact Or.inr (Or.inr ⟨origin, List.mem_cons_of_mem _ listed, kept⟩)
      have dots {others : List (List Char)} (within : segment ∈ others → segment ∈ before)
          (left : segment ∈ if segments.isEmpty then ([] :: others).reverse
            else resolve s others segments) :
          segment = [] ∨ segment ∈ before ∨ ∃ origin ∈ first :: segments, dots? origin ≠ some 1 ∧
            dots? origin ≠ some 2 ∧ segment = escape origin := by
        split at left
        · rcases List.mem_cons.mp (List.mem_reverse.mp left) with empty | earlier
          · exact Or.inl empty
          · exact Or.inr (Or.inl (within earlier))
        · exact later left (fun earlier => Or.inl (within earlier))
      rw [resolve] at member
      split at member
      · exact dots id member
      · exact dots mem_dropLast member
      · rename_i notOne notTwo
        rw [keep_eq notFile] at member
        apply later member
        intro earlier
        rcases List.mem_cons.mp earlier with same | earlier
        · exact Or.inr ⟨same, notOne, notTwo⟩
        · exact Or.inl earlier

theorem resolve_ne_nil (notFile : s ≠ .file) {segments before : List (List Char)}
    (something : before ≠ [] ∨ segments ≠ []) : resolve s before segments ≠ [] := by
  induction segments generalizing before with
  | nil => simpa [resolve] using something
  | cons first segments inductionHypothesis =>
      have dots (others : List (List Char)) : (if segments.isEmpty then ([] :: others).reverse
          else resolve s others segments) ≠ [] := by
        split
        · simp
        · rename_i more
          rw [List.isEmpty_iff] at more
          exact inductionHypothesis (Or.inr more)
      rw [resolve]
      split
      · exact dots before
      · exact dots (dropLast s before)
      · rw [keep_eq notFile]
        exact inductionHypothesis (Or.inl (List.cons_ne_nil _ _))

theorem read_ne_nil (notFile : s ≠ .file) (cs : List Char) : read s cs ≠ [] := by
  have someSegment : segments s cs ≠ [] := by
    cases cs with
    | nil => exact List.cons_ne_nil _ _
    | cons c rest =>
        rw [segments]
        split
        · exact List.cons_ne_nil _ _
        · split <;> exact List.cons_ne_nil _ _
  have someLeft : resolve s [] (segments s cs) ≠ [] := resolve_ne_nil notFile (Or.inr someSegment)
  rcases List.exists_cons_of_ne_nil someLeft with ⟨segment, more, resolved⟩
  unfold read
  dsimp only
  rw [if_neg notFile, resolved]
  exact List.cons_ne_nil _ _

/-! ## Paths that are left as they are -/

private theorem intact_of_mem_pieces {path segment : List Char} (intact : Intact path)
    (member : segment ∈ Form.pieces '/' path) : Intact segment := by
  rcases Form.exists_append_of_mem_pieces member with ⟨-, before, after, rfl, starts, ends⟩
  have behind : Intact (segment ++ after) := by
    rcases starts with rfl | ⟨front, rfl⟩
    · exact intact
    · rw [List.append_assoc] at intact
      exact (intact.cut (by decide)).2
  rcases ends with rfl | ⟨more, rfl⟩
  · rwa [List.append_nil] at behind
  · exact (behind.cut (by decide)).1

private theorem escape_of_mem_pieces {path segment : List Char}
    (kept : ∀ c ∈ path, escapeChar escaped c = [c]) (member : segment ∈ Form.pieces '/' path) :
    escape segment = segment := by
  rcases Form.exists_append_of_mem_pieces member with ⟨-, before, after, rfl, -, -⟩
  apply flatMap_escapeChar_eq_self
  intro c within
  exact kept c (List.mem_append_right _ (List.mem_append_left _ within))

private theorem not_isDots_iff {path segment : List Char} (intact : Intact path)
    (member : segment ∈ Form.pieces '/' path) :
    ¬ IsDots segment ↔ dots? segment ≠ some 1 ∧ dots? segment ≠ some 2 := by
  have ofPath := intact_of_mem_pieces intact member
  rw [IsDots, not_or, ne_eq, ne_eq, dots?_eq_some_iff ofPath, dots?_eq_some_iff ofPath]
  rfl

/-- What is left of such a path are segments of it that stand for themselves, and perhaps an empty
one. -/
private theorem of_mem_resolve_pieces (notFile : s ≠ .file) {path segment : List Char}
    (kept : ∀ c ∈ path, escapeChar escaped c = [c]) (intact : Intact path)
    (member : segment ∈ resolve s [] (Form.pieces '/' path)) :
    segment = [] ∨ segment ∈ Form.pieces '/' path ∧ ¬ IsDots segment := by
  rcases mem_resolve notFile member with empty | earlier | ⟨origin, listed, one, two, rfl⟩
  · exact Or.inl empty
  · cases earlier
  · rw [escape_of_mem_pieces kept listed]
    exact Or.inr ⟨listed, (not_isDots_iff intact listed).mpr ⟨one, two⟩⟩

/-- Where the written form is the same, so are the segments, and none stands for another place. -/
private theorem isResolved_of_write_eq (notFile : s ≠ .file) {path : List Char}
    (kept : ∀ c ∈ path, escapeChar escaped c = [c]) (intact : Intact path)
    (same : write (resolve s [] (Form.pieces '/' path)) = '/' :: path) : IsResolved path := by
  have noSlash : ∀ segment ∈ Form.pieces '/' path, '/' ∉ segment := by
    intro segment member
    exact (Form.exists_append_of_mem_pieces member).1
  have noSlashLeft : ∀ segment ∈ resolve s [] (Form.pieces '/' path), '/' ∉ segment := by
    intro segment member
    rcases of_mem_resolve_pieces notFile kept intact member with rfl | ⟨listed, -⟩
    · exact List.not_mem_nil
    · exact noSlash segment listed
  have resolved : resolve s [] (Form.pieces '/' path) = Form.pieces '/' path := by
    have someSegment := Form.pieces_ne_nil '/' path
    rw [← write_pieces] at same
    exact write_inj (resolve_ne_nil notFile (Or.inr someSegment)) someSegment noSlashLeft noSlash
      same
  intro segment member
  rw [← resolved] at member
  rcases of_mem_resolve_pieces notFile kept intact member with rfl | ⟨-, different⟩
  · decide
  · exact different

/-- A path in which there is nothing to escape is read as it stands if no segment of it stands for
another place, and only then. -/
theorem read_eq_iff (notFile : s ≠ .file) {path : List Char}
    (kept : ∀ c ∈ path, escapeChar escaped c = [c]) (noBackslash : '\\' ∉ path)
    (intact : Intact path) : read s path = '/' :: path ↔ IsResolved path := by
  have reads : read s path = write (resolve s [] (Form.pieces '/' path)) := by
    rw [read, segments_eq_pieces noBackslash, if_neg notFile]
  rw [reads]
  constructor
  · exact isResolved_of_write_eq notFile kept intact
  · intro isResolved
    have plain : ∀ segment ∈ Form.pieces '/' path, dots? segment ≠ some 1 ∧
        dots? segment ≠ some 2 := by
      intro segment member
      exact (not_isDots_iff intact member).mp (isResolved segment member)
    have unchanged : (Form.pieces '/' path).map escape = Form.pieces '/' path := by
      have same := List.map_congr_left (g := id) fun segment => escape_of_mem_pieces kept
      rwa [List.map_id] at same
    calc
      write (resolve s [] (Form.pieces '/' path)) =
          write ((Form.pieces '/' path).map escape) := by
        rw [resolve_eq notFile plain, List.reverse_nil, List.nil_append]
      _ = write (Form.pieces '/' path) := by
        rw [unchanged]
      _ = '/' :: path :=
        write_pieces path

end Path
end Url
end PathTemplate
