import PathTemplate.Url.Reader
import PathTemplate.Proofs.Location
import PathTemplate.Proofs.Url.Path

namespace PathTemplate
namespace Url

/-!
# Absolute URLs of plain characters

A URL of the web with a plain domain name is cut at the slash behind the name and at the first
question mark behind that.  If only characters follow that URLs are formatted with, then nothing is
dropped and nothing is escaped: the query is the text behind the question mark, and all that happens
to the path is that it is resolved.

Users, ports, addresses and names beyond ASCII are left aside, since nothing that follows the host
depends on them.
-/

/-! ## Plain characters -/

/-- A character of formatted URLs, other than the question mark in front of a query. -/
def isPlain (c : Char) : Bool :=
  Percent.isUnreserved c || c == '%' || c == '/' || c == '=' || c == '&'

private theorem bounds_of_isAlphanum {c : Char} (alphanum : c.isAlphanum = true) :
    0x20 < c.toNat ∧ c.toNat < 0x7F := by
  have codes : c.isAlphanum = (decide (0x41 ≤ c.toNat ∧ c.toNat ≤ 0x5A) ||
      (decide (0x61 ≤ c.toNat) && decide (c.toNat ≤ 0x7A)) ||
      (decide (0x30 ≤ c.toNat) && decide (c.toNat ≤ 0x39))) := rfl
  rw [codes] at alphanum
  simp only [Bool.or_eq_true, Bool.and_eq_true, decide_eq_true_eq] at alphanum
  omega

/-- Plain characters are visible and ASCII. -/
theorem bounds_of_isPlain {c : Char} (plain : isPlain c = true) :
    0x20 < c.toNat ∧ c.toNat < 0x7F := by
  unfold isPlain Percent.isUnreserved at plain
  simp only [Bool.or_eq_true, beq_iff_eq] at plain
  rcases plain with (((((((alphanum | rfl) | rfl) | rfl) | rfl) | rfl) | rfl) | rfl) | rfl
  · exact bounds_of_isAlphanum alphanum
  all_goals decide

/-- A set of characters to be escaped that contains no plain character leaves them all alone. -/
theorem escapeChar_of_isPlain {c : Char} (plain : isPlain c = true) {escaped : List Char}
    (apart : escaped.any isPlain = false) : escapeChar escaped c = [c] := by
  have bounds := bounds_of_isPlain plain
  have absent : c ∉ escaped := by
    intro member
    exact List.any_eq_false.mp apart c member plain
  unfold escapeChar
  apply if_neg
  simp only [Bool.or_eq_true, decide_eq_true_eq, List.contains_iff_mem, not_or]
  exact ⟨⟨by omega, by omega⟩, absent⟩

/-- Nothing is dropped from a text of visible characters. -/
theorem clean_eq_self {cs : List Char} (visible : ∀ c ∈ cs, 0x20 < c.toNat) : clean cs = cs := by
  have trimmed {text : List Char} (within : ∀ c ∈ text, 0x20 < c.toNat) :
      text.dropWhile isEdge = text := by
    have ends : ∀ c ∈ text.head?, isEdge c = false := by
      intro c first
      exact isEdge_of_visible (within c (List.mem_of_mem_head? first))
    exact (@span_append _ [] text nofun ends).2
  have backwards : ∀ c ∈ cs.reverse, 0x20 < c.toNat := by
    intro c member
    exact visible c (List.mem_reverse.mp member)
  rw [clean_eq, trimmed visible, trimmed backwards, List.reverse_reverse, List.filter_eq_self]
  intro c member
  exact isKept_of_visible (visible c member)

/-! ## Authorities -/

namespace Authority

/-- A domain name that is written with ASCII letters, digits, hyphens and dots. -/
structure IsPlainHost (host : List Char) : Prop where
  plain : ∀ c ∈ host, (c.isAlphanum || c == '-' || c == '.') = true
  isHost : (Host.normalize? host).isSome = true

instance : DecidablePred IsPlainHost := fun host =>
  decidable_of_iff (host.all (fun c => c.isAlphanum || c == '-' || c == '.') = true ∧
      (Host.normalize? host).isSome = true)
    ⟨fun both => ⟨List.all_eq_true.mp both.1, both.2⟩,
      fun plainHost => ⟨List.all_eq_true.mpr plainHost.plain, plainHost.isHost⟩⟩

namespace IsPlainHost

variable {host : List Char}

theorem isPlain (plainHost : IsPlainHost host) {c : Char} (member : c ∈ host) :
    Url.isPlain c = true := by
  have within := plainHost.plain c member
  simp only [Bool.or_eq_true] at within
  rcases within with (alphanum | hyphen) | dot
  · simp [Url.isPlain, Percent.isUnreserved, alphanum]
  · simp [Url.isPlain, Percent.isUnreserved, hyphen]
  · simp [Url.isPlain, Percent.isUnreserved, dot]

/-- None of the characters that cut an authority occurs in a plain host. -/
theorem ne (plainHost : IsPlainHost host) {c d : Char} (member : c ∈ host)
    (reserved : (d.isAlphanum || d == '-' || d == '.') = false) : c ≠ d := by
  rintro rfl
  rw [plainHost.plain c member] at reserved
  cases reserved

theorem ne_nil (plainHost : IsPlainHost host) : host ≠ [] := by
  rintro rfl
  have isHost := plainHost.isHost
  revert isHost
  decide +kernel

theorem endsAuthority_eq_false (plainHost : IsPlainHost host) {c : Char} (member : c ∈ host) :
    Scheme.web.endsAuthority c = false := by
  have slash := plainHost.ne member (d := '/') (by decide)
  have backslash := plainHost.ne member (d := '\\') (by decide)
  have mark := plainHost.ne member (d := '?') (by decide)
  have hash := plainHost.ne member (d := '#') (by decide)
  simp [Scheme.endsAuthority, Scheme.isSlash, slash, backslash, mark, hash]

end IsPlainHost

private theorem takeHost_append {host : List Char} (rest : List Char)
    (plain : ∀ c ∈ host, c ≠ ':' ∧ c ≠ '[' ∧ Scheme.web.endsAuthority c = false) :
    takeHost .web false (host ++ '/' :: rest) = (host, '/' :: rest) := by
  induction host with
  | nil => rfl
  | cons c host inductionHypothesis =>
      have each := List.forall_mem_cons.mp plain
      have bracket : (c == '[') = false := beq_eq_false_iff_ne.mpr each.1.2.1
      have within : ¬ ((c == ':' && !false) || Scheme.web.endsAuthority c) = true := by
        simp [each.1.1, each.1.2.2]
      rw [List.cons_append, takeHost, if_neg within]
      simp [bracket, inductionHypothesis each.2]

/-- A plain host is all of the authority in front of a slash. -/
theorem drop?_append {host : List Char} (plainHost : IsPlainHost host) (rest : List Char) :
    drop? .web (host ++ '/' :: rest) = some ('/' :: rest) := by
  have within : ∀ c ∈ host, (!Scheme.web.endsAuthority c) = true := by
    intro c member
    rw [plainHost.endsAuthority_eq_false member]
    rfl
  have ends : ∀ c ∈ ('/' :: rest).head?, (!Scheme.web.endsAuthority c) = false := by
    intro c first
    cases first
    rfl
  have noUser : dropUser? .web (host ++ '/' :: rest) = some (false, host ++ '/' :: rest) := by
    unfold dropUser?
    dsimp only
    rw [(span_append within ends).1]
    apply if_neg
    intro member
    exact plainHost.ne member (by decide) rfl
  have taken : takeHost .web false (host ++ '/' :: rest) = (host, '/' :: rest) := by
    apply takeHost_append
    intro c member
    exact ⟨plainHost.ne member (by decide), plainHost.ne member (by decide),
      plainHost.endsAuthority_eq_false member⟩
  have isHost : Authority.isHost .web false false host = true := plainHost.isHost
  rw [drop?, noUser]
  dsimp only
  rw [taken]
  exact if_pos isHost

end Authority

/-! ## Reading -/

/-- A search string behind a question mark, or nothing. -/
def querySuffix (query : Option (List Char)) : List Char :=
  query.elim [] ('?' :: ·)

private theorem visible_https {host path : List Char} {query : Option (List Char)}
    (plainHost : Authority.IsPlainHost host) (plainPath : ∀ c ∈ path, isPlain c = true)
    (plainQuery : ∀ search ∈ query, ∀ c ∈ search, isPlain c = true) :
    ∀ c ∈ "https://".toList ++ (host ++ '/' :: (path ++ querySuffix query)), 0x20 < c.toNat := by
  intro c member
  have scheme : "https://".toList.all (fun c => decide (0x20 < c.toNat)) = true := by decide
  rcases List.mem_append.mp member with inScheme | member
  · exact of_decide_eq_true (List.all_eq_true.mp scheme c inScheme)
  rcases List.mem_append.mp member with inHost | member
  · exact (bounds_of_isPlain (plainHost.isPlain inHost)).1
  rcases List.mem_cons.mp member with rfl | member
  · decide
  rcases List.mem_append.mp member with inPath | member
  · exact (bounds_of_isPlain (plainPath c inPath)).1
  cases query with
  | none => cases member
  | some search =>
      rcases List.mem_cons.mp member with rfl | inQuery
      · decide
      · exact (bounds_of_isPlain (plainQuery search rfl c inQuery)).1

private theorem readQuery_querySuffix {query : Option (List Char)}
    (plainQuery : ∀ search ∈ query, ∀ c ∈ search, isPlain c = true) :
    readQuery .web (querySuffix query) = query := by
  cases query with
  | none => rfl
  | some search =>
      have plain := plainQuery search rfl
      have noFragment : '#' ∉ search := by
        intro member
        exact absurd (plain '#' member) (by decide)
      have whole := Boundary.takeWhile_append noFragment .nil
      rw [List.append_nil] at whole
      have kept : ∀ c ∈ search, escapeChar (queryEscaped .web) c = [c] := by
        intro c member
        exact escapeChar_of_isPlain (plain c member) (by decide)
      change some ((search.takeWhile (· ≠ '#')).flatMap (escapeChar (queryEscaped .web))) = _
      rw [whole, flatMap_escapeChar_eq_self kept]

/-- Behind a plain host, a path of plain characters is resolved, and a query of plain characters is
kept. -/
theorem read?_https {host path : List Char} {query : Option (List Char)}
    (plainHost : Authority.IsPlainHost host) (plainPath : ∀ c ∈ path, isPlain c = true)
    (plainQuery : ∀ search ∈ query, ∀ c ∈ search, isPlain c = true) :
    read? ("https://".toList ++ (host ++ '/' :: (path ++ querySuffix query))) =
      some ⟨Path.read .web path, query⟩ := by
  have scheme (rest : List Char) :
      Scheme.read? ("https://".toList ++ rest) = some (.web, '/' :: '/' :: rest) := rfl
  have slashes (rest : List Char) :
      ('/' :: '/' :: (host ++ rest)).dropWhile Scheme.web.isSlash = host ++ rest := by
    rcases List.exists_cons_of_ne_nil plainHost.ne_nil with ⟨c, more, rfl⟩
    have within := plainHost.endsAuthority_eq_false List.mem_cons_self
    simp only [Scheme.endsAuthority, Bool.or_eq_false_iff] at within
    exact List.dropWhile_cons_of_neg (ne_true_of_eq_false within.1.1)
  have within : ∀ c ∈ path, (!endsPath c) = true := by
    intro c member
    have mark : c ≠ '?' := by
      rintro rfl
      exact absurd (plainPath _ member) (by decide)
    have hash : c ≠ '#' := by
      rintro rfl
      exact absurd (plainPath _ member) (by decide)
    simp [endsPath, mark, hash]
  have ends : ∀ c ∈ (querySuffix query).head?, (!endsPath c) = false := by
    intro c first
    cases query with
    | none => cases first
    | some search =>
        cases first
        rfl
  have span := span_append within ends
  rw [read?, clean_eq_self (visible_https plainHost plainPath plainQuery), readClean?, scheme]
  dsimp only
  rw [slashes, Authority.drop?_append plainHost, Option.map_some]
  change some (ofPath .web (path ++ querySuffix query)) = _
  rw [ofPath, span.1, span.2, readQuery_querySuffix plainQuery]

end Url
end PathTemplate
