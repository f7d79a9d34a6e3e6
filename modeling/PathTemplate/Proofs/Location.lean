import PathTemplate.Location
import PathTemplate.Proofs.Text.Separator

namespace PathTemplate

/-!
# Locations of rooted texts

A text that begins with a slash is no absolute URL, whatever follows: nothing is stripped in front of
the slash, and a slash starts no scheme.  So it is cut by hand, and a path without question marks
and hash signs comes back as it was written, with the search string behind it.
-/

namespace Url

/-- A character that does not belong to the edges of a text keeps all in front of it. -/
private theorem trimEnd_append {p : Char → Bool} {c : Char} (stays : p c = false)
    (front rest : List Char) :
    ∃ more, ((front ++ c :: rest).reverse.dropWhile p).reverse = front ++ c :: more := by
  refine ⟨(rest.reverse.dropWhile p).reverse, ?_⟩
  have ends : ∀ d ∈ (c :: front.reverse).head?, p d = false := by
    rintro d ⟨⟩
    exact stays
  calc
    ((front ++ c :: rest).reverse.dropWhile p).reverse =
        ((rest.reverse ++ c :: front.reverse).dropWhile p).reverse := by
      simp
    _ = (rest.reverse.dropWhile p ++ c :: front.reverse).reverse := by
      rw [(while_append rest.reverse ends).2]
    _ = front ++ c :: (rest.reverse.dropWhile p).reverse := by
      simp

/-- The characters around a text that cleaning drops. -/
def isEdge (c : Char) : Bool :=
  c.toNat ≤ 0x20

/-- The characters within a text that cleaning keeps. -/
def isKept (c : Char) : Bool :=
  c != '\t' && c != '\n' && c != '\r'

theorem clean_eq (cs : List Char) :
    clean cs = ((cs.dropWhile isEdge).reverse.dropWhile isEdge).reverse.filter isKept :=
  rfl

theorem isEdge_of_visible {c : Char} (visible : 0x20 < c.toNat) : isEdge c = false :=
  decide_eq_false (Nat.not_le_of_lt visible)

theorem isKept_of_visible {c : Char} (visible : 0x20 < c.toNat) : isKept c = true := by
  simp only [isKept, Bool.and_eq_true, bne_iff_ne, ne_eq]
  refine ⟨⟨?_, ?_⟩, ?_⟩ <;>
    · rintro rfl
      exact absurd visible (by decide)

/-- What cleaning leaves of a text in front of a character that it keeps. -/
def cleanFront (front : List Char) : List Char :=
  (front.dropWhile isEdge).filter isKept

/-- Up to a visible character, cleaning does not depend on what follows. -/
theorem clean_append {c : Char} (visible : 0x20 < c.toNat) (front rest : List Char) :
    ∃ more, clean (front ++ c :: rest) = cleanFront front ++ c :: more := by
  have stays := isEdge_of_visible visible
  have ends : ∀ d ∈ (c :: rest).head?, isEdge d = false := by
    rintro d ⟨⟩
    exact stays
  rcases trimEnd_append stays (front.dropWhile isEdge) rest with ⟨more, trimmed⟩
  rw [clean_eq, (while_append front ends).2, trimmed, List.filter_append,
    List.filter_cons_of_pos (isKept_of_visible visible)]
  exact ⟨_, rfl⟩

/-- No rooted text is an absolute URL. -/
theorem read?_rooted (rest : List Char) : read? ('/' :: rest) = none := by
  rcases clean_append (c := '/') (by decide) [] rest with ⟨more, cleaned⟩
  change clean ('/' :: rest) = '/' :: more at cleaned
  rw [read?, cleaned, readClean?, Scheme.read?]
  rfl

end Url

namespace Location

theorem parse_rooted {text : String} (rooted : text.toList.head? = some '/') :
    parse text = split text := by
  rcases List.head?_eq_some_iff.mp rooted with ⟨rest, characters⟩
  rw [parse, characters, Url.read?_rooted]

/-- A path that contains none of the characters that end paths. -/
structure IsPath (path : List Char) : Prop where
  noSearch : '?' ∉ path
  noFragment : '#' ∉ path

instance : DecidablePred IsPath := fun path =>
  decidable_of_iff ('?' ∉ path ∧ '#' ∉ path)
    ⟨fun both => ⟨both.1, both.2⟩, fun isPath => ⟨isPath.noSearch, isPath.noFragment⟩⟩

theorem IsPath.append {first second : List Char} (one : IsPath first) (other : IsPath second) :
    IsPath (first ++ second) where
  noSearch := by
    rw [List.mem_append, not_or]
    exact ⟨one.noSearch, other.noSearch⟩
  noFragment := by
    rw [List.mem_append, not_or]
    exact ⟨one.noFragment, other.noFragment⟩

theorem IsPath.nil : IsPath [] :=
  ⟨List.not_mem_nil, List.not_mem_nil⟩

theorem IsPath.of_subset {first second : List Char} (isPath : IsPath second)
    (within : first ⊆ second) : IsPath first where
  noSearch member := isPath.noSearch (within member)
  noFragment member := isPath.noFragment (within member)

/-- A path with a search string behind it, or nothing, is cut where the path ends. -/
theorem split_append {path rest : List Char} (isPath : IsPath path) (nonempty : path ≠ [])
    (ends : Boundary '?' rest) (noFragment : '#' ∉ rest) :
    split (String.ofList (path ++ rest)) = ⟨String.ofList path, rest.tail?.map String.ofList⟩ := by
  have whole : '#' ∉ path ++ rest := by
    rw [List.mem_append, not_or]
    exact ⟨isPath.noFragment, noFragment⟩
  have body : (path ++ rest).takeWhile (· ≠ '#') = path ++ rest := by
    have cut := Boundary.takeWhile_append whole .nil
    rwa [List.append_nil] at cut
  have kept : pathOrRoot path = String.ofList path := if_neg nonempty
  simp only [split, String.toList_ofList, body, Boundary.takeWhile_append isPath.noSearch ends,
    Boundary.dropWhile_append isPath.noSearch ends, kept]
  cases rest <;> rfl

/-- A fragment is dropped. -/
theorem split_append_fragment {body fragment : List Char} (noFragment : '#' ∉ body)
    (ends : Boundary '#' fragment) :
    split (String.ofList (body ++ fragment)) = split (String.ofList body) := by
  have whole := Boundary.takeWhile_append noFragment .nil
  rw [List.append_nil] at whole
  simp only [split, String.toList_ofList, Boundary.takeWhile_append noFragment ends, whole]

/-- A rooted path with nothing behind it is a location of its own. -/
theorem parse_path {path : String} (isPath : IsPath path.toList)
    (rooted : path.toList.head? = some '/') : parse path = ofPath path := by
  have nonempty : path.toList ≠ [] := by
    intro empty
    rw [empty] at rooted
    cases rooted
  have whole : split (String.ofList (path.toList ++ [])) = _ :=
    split_append isPath nonempty .nil List.not_mem_nil
  rw [List.append_nil, String.ofList_toList] at whole
  rw [parse_rooted rooted, whole]
  rfl

end Location
end PathTemplate
