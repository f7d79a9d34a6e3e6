import PathTemplate.Proofs.Location

namespace PathTemplate
namespace Url

open Location (IsPath)

/-!
# What stands behind the path of an absolute URL

A URL is read from the left, and up to its first question mark or hash sign nothing is looked at
behind that.  So neither the query nor the fragment has a say in what the path is, or in whether the
text is a URL at all.  This is shown for one reader after the other, with an arbitrary rest behind
the mark: what a reader leaves is left with the rest behind it.

That there is a query or a fragment does make a difference.  A space is dropped at the end of a text
but not in front of a question mark, and an `@` at the very end is not the same as an `@` in front
of one.
-/

/-- A text that begins with the mark of a query or of a fragment. -/
def Marked (rest : List Char) : Prop :=
  ∃ mark more, rest = mark :: more ∧ (mark = '?' ∨ mark = '#')

theorem Marked.ends {rest : List Char} (marked : Marked rest) {p : Char → Bool}
    (search : p '?' = false) (fragment : p '#' = false) : ∀ c ∈ rest.head?, p c = false := by
  rcases marked with ⟨mark, more, rfl, rfl | rfl⟩
  · rintro c ⟨⟩
    exact search
  · rintro c ⟨⟩
    exact fragment

theorem Marked.ne_cons {rest : List Char} (marked : Marked rest) {c : Char} (noSearch : c ≠ '?')
    (noFragment : c ≠ '#') (more : List Char) : rest ≠ c :: more := by
  rcases marked with ⟨mark, others, rfl, rfl | rfl⟩
  · intro same
    exact noSearch (List.cons.inj same).1.symm
  · intro same
    exact noFragment (List.cons.inj same).1.symm

/-! ## Schemes and authorities -/

/-- The scheme is told from what stands in front of a mark. -/
theorem scheme_read?_append (front : List Char) {rest : List Char} (marked : Marked rest) :
    Scheme.read? (front ++ rest) =
      (Scheme.read? front).map (fun found => (found.1, found.2 ++ rest)) := by
  cases front with
  | nil =>
      rcases marked with ⟨mark, more, rfl, rfl | rfl⟩
      · rfl
      · rfl
  | cons c front =>
      have span := while_append (c :: front) (marked.ends (p := Scheme.isNameChar) rfl rfl)
      have noColon : ∀ more, rest ≠ ':' :: more := marked.ne_cons (by decide) (by decide)
      rw [List.cons_append] at span
      simp only [Scheme.read?, List.cons_append, span.1, span.2]
      split
      · cases left : (c :: front).dropWhile Scheme.isNameChar with
        | nil =>
            rw [List.nil_append]
            split
            · exact absurd rfl (noColon _)
            · rfl
        | cons d more =>
            by_cases colon : d = ':'
            · subst colon
              rfl
            · simp [colon]
      · rfl

theorem subset_of_scheme_read? {cs rest : List Char} {s : Scheme}
    (read : Scheme.read? cs = some (s, rest)) : rest ⊆ cs := by
  unfold Scheme.read? at read
  split at read
  · cases read
  · split at read
    · split at read
      · rename_i left
        cases read
        have behind := List.subset_cons_self ':' rest
        rw [← left] at behind
        exact List.Subset.trans behind (List.dropWhile_suffix _).subset
      · cases read
    · cases read

namespace Authority

theorem takeHost_marked (s : Scheme) (bracketed : Bool) (front : List Char) {rest : List Char}
    (marked : Marked rest) :
    takeHost s bracketed (front ++ rest) =
      ((takeHost s bracketed front).1, (takeHost s bracketed front).2 ++ rest) := by
  induction front generalizing bracketed with
  | nil =>
      rcases marked with ⟨mark, more, rfl, rfl | rfl⟩
      · simp [takeHost, Scheme.endsAuthority]
      · simp [takeHost, Scheme.endsAuthority]
  | cons c front inductionHypothesis =>
      simp only [List.cons_append, takeHost, inductionHypothesis]
      split <;> rfl

theorem takeHost_subset (s : Scheme) (bracketed : Bool) (cs : List Char) :
    (takeHost s bracketed cs).2 ⊆ cs := by
  induction cs generalizing bracketed with
  | nil => exact List.Subset.refl _
  | cons c cs inductionHypothesis =>
      rw [takeHost]
      split
      · exact List.Subset.refl _
      · exact List.subset_cons_of_subset c (inductionHypothesis _)

theorem dropPort?_marked (front : List Char) {rest : List Char} (marked : Marked rest) :
    dropPort? (front ++ rest) = (dropPort? front).map (· ++ rest) := by
  have ends := marked.ends (p := Char.isDigit) rfl rfl
  cases front with
  | nil =>
      rcases marked with ⟨mark, more, rfl, rfl | rfl⟩
      · rfl
      · rfl
  | cons c front =>
      by_cases colon : c = ':'
      · subst colon
        have span := while_append front ends
        have head (p : Char → Bool) (search : p '?' = true) (fragment : p '#' = true)
            (text : List Char) : (text ++ rest).head?.all p = text.head?.all p := by
          cases text with
          | nil =>
              rcases marked with ⟨mark, more, rfl, rfl | rfl⟩
              · exact search
              · exact fragment
          | cons _ _ => rfl
        simp only [List.cons_append, dropPort?, span.1, span.2]
        rw [head _ rfl rfl]
        split <;> rfl
      · simp [dropPort?, colon]

theorem dropPort?_subset {cs left : List Char} (dropped : dropPort? cs = some left) :
    left ⊆ cs := by
  unfold dropPort? at dropped
  split at dropped
  · dsimp only at dropped
    split at dropped
    · cases dropped
      exact List.subset_cons_of_subset _ (List.dropWhile_suffix _).subset
    · cases dropped
  · cases dropped
    exact List.Subset.refl _

private theorem length_user_lt {authority : List Char} (named : '@' ∈ authority) :
    ((authority.reverse.dropWhile (· ≠ '@')).drop 1).reverse.length < authority.length := by
  rcases Boundary.exists_append '@' authority.reverse with ⟨host, rest, split, absent, ends⟩
  rw [split, Boundary.dropWhile_append absent ends]
  have lengths := congrArg List.length split
  rw [List.length_reverse, List.length_append] at lengths
  rcases ends with rfl | ⟨user, rfl⟩
  · rw [← List.mem_reverse, split, List.append_nil] at named
    exact absurd named absent
  · rw [List.length_cons] at lengths
    rw [List.length_reverse, List.drop_one, List.tail_cons]
    omega

/-- Whether there is a user, and who it is, is settled in front of a mark.  At the very end of a
text it would not be, since an empty user is refused only if a host might follow. -/
theorem dropUser?_marked (s : Scheme) {front : List Char} (isPath : IsPath front) :
    ∃ left : Option (Bool × List Char), (∀ found ∈ left, IsPath found.2) ∧
      ∀ rest, Marked rest →
        dropUser? s (front ++ rest) = left.map (fun found => (found.1, found.2 ++ rest)) := by
  let authority := front.takeWhile (fun c => !s.endsAuthority c)
  let user := ((authority.reverse.dropWhile (· ≠ '@')).drop 1).reverse
  let host := front.drop (user.length + 1)
  have cut {rest : List Char} (marked : Marked rest) :
      (front ++ rest).takeWhile (fun c => !s.endsAuthority c) = authority := by
    apply (while_append front (marked.ends ?_ ?_)).1
    all_goals simp [Scheme.endsAuthority]
  by_cases named : '@' ∈ authority
  · have within : user.length + 1 ≤ front.length :=
      Nat.le_trans (length_user_lt named) (List.takeWhile_prefix _).length_le
    have split {rest : List Char} : (front ++ rest).drop (user.length + 1) = host ++ rest :=
      List.drop_append_of_le_length within
    have ends {rest : List Char} (marked : Marked rest) :
        (host ++ rest).head?.any s.endsAuthority = host.head?.all s.endsAuthority := by
      cases host with
      | nil =>
          rcases marked with ⟨mark, more, rfl, rfl | rfl⟩
          · simp [Scheme.endsAuthority]
          · simp [Scheme.endsAuthority]
      | cons _ _ => rfl
    refine ⟨if user = [] && host.head?.all s.endsAuthority then none
      else some (user ≠ [] && user ≠ [':'], host), ?_, ?_⟩
    · intro found member
      split at member
      · cases member
      · cases member
        exact isPath.of_subset (List.drop_suffix _ _).subset
    · intro rest marked
      unfold dropUser?
      dsimp only
      rw [cut marked, if_pos named, split, ends marked]
      split <;> rfl
  · refine ⟨some (false, front), ?_, ?_⟩
    · rintro found ⟨⟩
      exact isPath
    · intro rest marked
      unfold dropUser?
      dsimp only
      rw [cut marked, if_neg named]
      rfl

/-- What follows the authority is settled in front of a mark as well. -/
theorem drop?_marked (s : Scheme) {front : List Char} (isPath : IsPath front) :
    ∃ left : Option (List Char), (∀ behind ∈ left, IsPath behind) ∧
      ∀ rest, Marked rest → drop? s (front ++ rest) = left.map (· ++ rest) := by
  rcases dropUser?_marked s isPath with ⟨found, plain, named⟩
  cases found with
  | none =>
      refine ⟨none, nofun, ?_⟩
      intro rest marked
      rw [drop?, named rest marked]
      rfl
  | some found =>
      rcases found with ⟨hasUser, behind⟩
      have behindPath : IsPath (takeHost s false behind).2 :=
        (plain _ rfl).of_subset (takeHost_subset s false behind)
      have head {rest : List Char} (marked : Marked rest) (text : List Char) :
          ((text ++ rest).head? == some ':') = (text.head? == some ':') := by
        cases text with
        | nil => rcases marked with ⟨mark, more, rfl, rfl | rfl⟩ <;> rfl
        | cons _ _ => rfl
      refine ⟨if isHost s hasUser ((takeHost s false behind).2.head? == some ':')
          (takeHost s false behind).1 then dropPort? (takeHost s false behind).2 else none, ?_, ?_⟩
      · intro left member
        split at member
        · exact behindPath.of_subset (dropPort?_subset member)
        · cases member
      · intro rest marked
        rw [drop?, named rest marked]
        simp only [Option.map_some, takeHost_marked s false behind marked, head marked,
          dropPort?_marked _ marked]
        split <;> rfl

end Authority

/-! ## The path -/

/-- A reader makes the same path of a text in front of a mark, or none, whatever is behind. -/
def Settles (read : List Char → Option Url) (front : List Char) : Prop :=
  ∃ path, ∀ rest, Marked rest → (read (front ++ rest)).map Url.path = path

theorem Settles.of_eq {read other : List Char → Option Url} {front piece : List Char}
    (settles : Settles other piece)
    (same : ∀ rest, Marked rest → read (front ++ rest) = other (piece ++ rest)) :
    Settles read front := by
  rcases settles with ⟨path, settled⟩
  refine ⟨path, ?_⟩
  intro rest marked
  rw [same rest marked]
  exact settled rest marked

theorem Settles.of_eq_none {read : List Char → Option Url} {front : List Char}
    (nothing : ∀ rest, Marked rest → read (front ++ rest) = none) : Settles read front := by
  refine ⟨none, ?_⟩
  intro rest marked
  rw [nothing rest marked]
  rfl

theorem endsPath_eq_false {path : List Char} (isPath : IsPath path) {c : Char}
    (member : c ∈ path) : endsPath c = false := by
  have mark : c ≠ '?' := fun same => isPath.noSearch (same ▸ member)
  have hash : c ≠ '#' := fun same => isPath.noFragment (same ▸ member)
  simp [endsPath, mark, hash]

theorem settles_ofPath (s : Scheme) {front : List Char} (isPath : IsPath front) :
    Settles (fun cs => some (ofPath s cs)) front := by
  refine ⟨some (Path.read s front), ?_⟩
  intro rest marked
  have within : ∀ c ∈ front, (!endsPath c) = true := by
    intro c member
    rw [endsPath_eq_false isPath member, Bool.not_false]
  have span := span_append within (marked.ends rfl rfl)
  rw [Option.map_some, ofPath, span.1]

theorem settles_ofRest (s : Scheme) {front : List Char} (isPath : IsPath front) :
    Settles (fun cs => some (ofRest s cs)) front := by
  cases front with
  | nil =>
      rcases settles_ofPath s .nil with ⟨path, settled⟩
      by_cases special : s.isSpecial = true
      · refine ⟨path, ?_⟩
        intro rest marked
        rw [← settled rest marked]
        rcases marked with ⟨mark, more, rfl, rfl | rfl⟩ <;>
          simp [ofRest, Scheme.isSlash, special]
      · refine ⟨some [], ?_⟩
        intro rest marked
        rcases marked with ⟨mark, more, rfl, rfl | rfl⟩ <;>
          simp [ofRest, Scheme.isSlash, endsPath, special]
  | cons c front =>
      have goesOn : endsPath c = false := endsPath_eq_false isPath List.mem_cons_self
      have behind : IsPath front := isPath.of_subset (List.subset_cons_self c front)
      simp only [Settles, List.cons_append, ofRest, goesOn, Bool.and_false, Bool.false_eq_true,
        if_false]
      split
      · exact settles_ofPath s behind
      · exact settles_ofPath s isPath

/-- A mark is no slash, so a URL of a file whose path is over has no host. -/
private theorem readFile?_of_not_slash (a : Char) {b : Char} (within : Scheme.file.isSlash b = false)
    (rest : List Char) : readFile? (a :: b :: rest) = some (ofRest .file (a :: b :: rest)) := by
  rw [readFile?, within, Bool.and_false]
  exact if_neg Bool.false_ne_true

theorem Settles.ite {p : Prop} [Decidable p] {read other : List Char → Option Url}
    {front : List Char} (positive : Settles read front) (negative : Settles other front) :
    Settles (fun cs => if p then read cs else other cs) front := by
  split
  · exact positive
  · exact negative

/-- Behind two slashes, everything but the rest is settled by what the host is. -/
private theorem settles_readFile?_slashes {a b : Char} {front : List Char} (isPath : IsPath front)
    (slashes : (Scheme.file.isSlash a && Scheme.file.isSlash b) = true) :
    Settles readFile? (a :: b :: front) := by
  let host := front.takeWhile (fun c => !Scheme.file.endsAuthority c)
  let after := front.dropWhile (fun c => !Scheme.file.endsAuthority c)
  have afterPath : IsPath after := isPath.of_subset (List.dropWhile_suffix _).subset
  have whole : Settles (fun rest => some (ofPath .file (front ++ rest))) [] :=
    settles_ofPath .file isPath
  have nameless : Settles (fun rest => some (ofPath .file (after ++ rest))) [] :=
    settles_ofPath .file afterPath
  have named : Settles (fun rest => some (ofRest .file (after ++ rest))) [] :=
    settles_ofRest .file afterPath
  have read : Settles (fun rest =>
      if Path.isDrive host then some (ofPath .file (front ++ rest))
      else if host = [] then some (ofPath .file (after ++ rest))
      else (Host.normalize? host).bind fun name =>
        if name = "localhost".toList then some (ofPath .file (after ++ rest))
        else some (ofRest .file (after ++ rest))) [] := by
    apply Settles.ite whole
    apply Settles.ite nameless
    cases Host.normalize? host with
    | none => exact .of_eq_none (fun _ _ => rfl)
    | some name => exact .ite nameless named
  apply read.of_eq
  intro rest marked
  have span := while_append front
    (marked.ends (p := fun c => !Scheme.file.endsAuthority c) rfl rfl)
  simp only [List.cons_append, readFile?, span.1, span.2]
  rw [if_pos slashes]
  cases Host.normalize? host <;> rfl

theorem settles_readFile? {front : List Char} (isPath : IsPath front) :
    Settles readFile? front := by
  cases front with
  | nil =>
      apply (settles_ofRest .file isPath).of_eq
      rintro rest ⟨mark, more, rfl, rfl | rfl⟩ <;>
        · cases more <;> rfl
  | cons a front =>
      cases front with
      | nil =>
          apply (settles_ofRest .file isPath).of_eq
          rintro rest ⟨mark, more, rfl, isMark⟩
          apply readFile?_of_not_slash
          rcases isMark with rfl | rfl <;> rfl
      | cons b front =>
          by_cases slashes : (Scheme.file.isSlash a && Scheme.file.isSlash b) = true
          · apply settles_readFile?_slashes ?_ slashes
            exact isPath.of_subset (List.subset_cons_of_subset _ (List.subset_cons_self _ _))
          · apply (settles_ofRest .file isPath).of_eq
            intro rest _
            simp only [List.cons_append, readFile?]
            exact if_neg slashes

theorem settles_drop? (s : Scheme) {front : List Char} (isPath : IsPath front) :
    Settles (fun cs => (Authority.drop? s cs).map (ofRest s)) front := by
  rcases Authority.drop?_marked s isPath with ⟨left, plain, dropped⟩
  cases left with
  | none =>
      apply Settles.of_eq_none
      intro rest marked
      rw [dropped rest marked]
      rfl
  | some behind =>
      apply (settles_ofRest s (plain behind rfl)).of_eq
      intro rest marked
      rw [dropped rest marked]
      rfl

/-- Read what follows a scheme that is neither of files nor of the web: two slashes and an authority,
or one slash and a path. -/
def readOther? : List Char → Option Url
  | '/' :: '/' :: rest => (Authority.drop? .other rest).map (ofRest .other)
  | '/' :: rest => some (ofPath .other rest)
  | _ => none

theorem readOther?_of_ne_slash {a : Char} (different : a ≠ '/') (rest : List Char) :
    readOther? (a :: rest) = none := by
  unfold readOther?
  split
  · rename_i same
    exact absurd (List.cons.inj same).1 different
  · rename_i same
    exact absurd (List.cons.inj same).1 different
  · rfl

theorem readOther?_slash {b : Char} (different : b ≠ '/') (rest : List Char) :
    readOther? ('/' :: b :: rest) = some (ofPath .other (b :: rest)) := by
  unfold readOther?
  split
  · rename_i same
    exact absurd (List.cons.inj (List.cons.inj same).2).1 different
  · rename_i same
    rw [(List.cons.inj same).2]
  · rename_i others
    exact absurd rfl (others _)

theorem settles_readOther? {front : List Char} (isPath : IsPath front) :
    Settles readOther? front := by
  cases front with
  | nil =>
      apply Settles.of_eq_none
      rintro rest ⟨mark, more, rfl, rfl | rfl⟩ <;> rfl
  | cons a front =>
      by_cases slash : a = '/'
      · subst slash
        cases front with
        | nil =>
            apply (settles_ofPath .other .nil).of_eq
            rintro rest ⟨mark, more, rfl, rfl | rfl⟩ <;> rfl
        | cons b front =>
            by_cases second : b = '/'
            · subst second
              have behind : front ⊆ '/' :: '/' :: front :=
                List.subset_cons_of_subset _ (List.subset_cons_self _ _)
              apply (settles_drop? .other (isPath.of_subset behind)).of_eq
              intro rest _
              rfl
            · apply (settles_ofPath .other (isPath.of_subset (List.subset_cons_self _ _))).of_eq
              intro rest _
              exact readOther?_slash second (front ++ rest)
      · apply Settles.of_eq_none
        intro rest _
        exact readOther?_of_ne_slash slash (front ++ rest)

theorem readClean?_other {cs rest : List Char} (scheme : Scheme.read? cs = some (.other, rest)) :
    readClean? cs = readOther? rest := by
  rw [readClean?, scheme]
  cases rest with
  | nil => rfl
  | cons a rest =>
      by_cases slash : a = '/'
      · subst slash
        cases rest with
        | nil => rfl
        | cons b rest =>
            by_cases second : b = '/'
            · subst second
              rfl
            · simp [readOther?, second]
      · simp [readOther?, slash]

theorem settles_readClean? {front : List Char} (isPath : IsPath front) :
    Settles readClean? front := by
  cases read : Scheme.read? front with
  | none =>
      apply Settles.of_eq_none
      intro rest marked
      rw [readClean?, scheme_read?_append front marked, read]
      rfl
  | some found =>
      rcases found with ⟨s, behind⟩
      have behindPath : IsPath behind := isPath.of_subset (subset_of_scheme_read? read)
      have scheme (rest : List Char) (marked : Marked rest) :
          Scheme.read? (front ++ rest) = some (s, behind ++ rest) := by
        rw [scheme_read?_append front marked, read]
        rfl
      cases s with
      | file =>
          apply (settles_readFile? behindPath).of_eq
          intro rest marked
          rw [readClean?, scheme rest marked]
      | web =>
          have hostPath : IsPath (behind.dropWhile Scheme.web.isSlash) :=
            behindPath.of_subset (List.dropWhile_suffix _).subset
          apply (settles_drop? .web hostPath).of_eq
          intro rest marked
          rw [readClean?, scheme rest marked]
          dsimp only
          rw [(while_append behind (marked.ends (p := Scheme.web.isSlash) rfl rfl)).2]
      | other =>
          apply (settles_readOther? behindPath).of_eq
          intro rest marked
          exact readClean?_other (scheme rest marked)

/-- Neither the query nor the fragment of a text decides whether it is an absolute URL, or what the
path of that URL is. -/
theorem settles_read? {front : List Char} (isPath : IsPath front) : Settles read? front := by
  have kept : IsPath (cleanFront front) :=
    isPath.of_subset
      (List.Subset.trans List.filter_sublist.subset (List.dropWhile_suffix _).subset)
  rcases settles_readClean? kept with ⟨path, settled⟩
  refine ⟨path, ?_⟩
  rintro rest ⟨mark, more, rfl, isMark⟩
  have visible : 0x20 < mark.toNat := by
    rcases isMark with rfl | rfl <;> decide
  rcases clean_append visible front more with ⟨others, cleaned⟩
  rw [read?, cleaned]
  exact settled _ ⟨mark, others, rfl, isMark⟩

end Url
end PathTemplate
