import PathTemplate.Proofs.Location
import PathTemplate.Route

namespace PathTemplate

/-!
# Locations as text and as data

A location may be given as text, with a search string behind a question mark and a fragment behind a
hash sign, or it may be put together from a path and a search string.  For rooted paths the two say
the same.  The text is no absolute URL, so nothing is trimmed, resolved or escaped in it: control
characters, dots and slashes that stand side by side are kept in both forms.

The question mark that belongs to the form is one, and further ones belong to the search string.  So
the two forms also agree on a search string that begins with a question mark, provided that the mark
in front of it is given as well.  Hash signs are different: the first one ends the search string.
-/

namespace Location

/-- A location as text, with what stands behind the path if there is anything. -/
def written (path : String) (search fragment : Option String) : String :=
  path ++ search.elim "" ("?" ++ ·) ++ fragment.elim "" ("#" ++ ·)

/-- A location as data, where the search string is given behind its question mark. -/
def structured (path : String) : Option String → Location
  | none => ofPath path
  | some search => (ofPath path).withSearch ("?" ++ search)

theorem structured_eq (path : String) (search : Option String) :
    structured path search = ⟨path, search⟩ := by
  cases search with
  | none => rfl
  | some search =>
      have marked : ("?" ++ search).toList = '?' :: search.toList := by
        simp
      simp only [structured, withSearch, marked, String.ofList_toList, ofPath]

/-- The question mark may be left out in front of a search string that does not begin with one. -/
theorem withSearch_eq_structured (path : String) {search : String}
    (unmarked : search.toList.head? ≠ some '?') :
    (ofPath path).withSearch search = structured path (some search) := by
  rw [structured_eq, withSearch]
  split
  · rename_i rest characters
    rw [characters] at unmarked
    exact absurd rfl unmarked
  · rfl

/-- A text behind its mark, if there is one. -/
def behind (mark : Char) (text : Option String) : List Char :=
  text.elim [] (mark :: ·.toList)

@[simp] theorem toList_written (path : String) (search fragment : Option String) :
    (written path search fragment).toList =
      path.toList ++ behind '?' search ++ behind '#' fragment := by
  cases search <;> cases fragment <;> simp [written, behind]

theorem boundary_behind (mark : Char) (text : Option String) : Boundary mark (behind mark text) := by
  cases text with
  | none => exact .nil
  | some text => exact .cons text.toList

theorem tail?_behind (mark : Char) (text : Option String) :
    (behind mark text).tail?.map String.ofList = text := by
  cases text with
  | none => rfl
  | some text => exact congrArg some String.ofList_toList

theorem not_mem_behind {mark c : Char} {text : Option String} (different : c ≠ mark)
    (absent : ∀ given ∈ text, c ∉ given.toList) : c ∉ behind mark text := by
  cases text with
  | none => exact List.not_mem_nil
  | some given => exact List.not_mem_cons_of_ne_of_not_mem different (absent given rfl)

theorem parse_written_eq {path : String} {search : Option String}
    (rooted : path.toList.head? = some '/') (isPath : IsPath path.toList)
    (noFragment : ∀ text ∈ search, '#' ∉ text.toList) (fragment : Option String) :
    parse (written path search fragment) = structured path search := by
  have nonempty : path.toList ≠ [] := by
    intro empty
    rw [empty] at rooted
    cases rooted
  have stillRooted : (written path search fragment).toList.head? = some '/' := by
    simp [rooted]
  have noHash : '#' ∉ behind '?' search := not_mem_behind (by decide) noFragment
  have noHashBefore : '#' ∉ path.toList ++ behind '?' search := by
    rw [List.mem_append, not_or]
    exact ⟨isPath.noFragment, noHash⟩
  have text : written path search fragment =
      String.ofList (path.toList ++ behind '?' search ++ behind '#' fragment) := by
    rw [← toList_written, String.ofList_toList]
  calc
    parse (written path search fragment) = split (written path search fragment) :=
      parse_rooted stillRooted
    _ = split (String.ofList (path.toList ++ behind '?' search)) := by
      rw [text, split_append_fragment noHashBefore (boundary_behind '#' fragment)]
    _ = ⟨String.ofList path.toList, (behind '?' search).tail?.map String.ofList⟩ :=
      split_append isPath nonempty (boundary_behind '?' search) noHash
    _ = ⟨path, search⟩ := by
      rw [String.ofList_toList, tail?_behind]
    _ = structured path search :=
      (structured_eq path search).symm

end Location

namespace Route

open Location

/-- A rooted path is read from text as it is, with its search string, and a fragment is passed over.
So it makes no difference for matching and rewriting whether a location is given as text or as
data. -/
theorem parse_written {path : String} (rooted : path.toList.head? = some '/')
    (isPath : IsPath path.toList) {search : Option String}
    (noFragment : ∀ text ∈ search, '#' ∉ text.toList) (fragment : Option String) :
    parse (written path search fragment) = structured path search ∧
    (∀ text ∈ search, text.toList.head? ≠ some '?' →
      parse (written path search fragment) = (ofPath path).withSearch text) ∧
    (∀ (r : Route) (extent : Extent),
      r.matchUrl (written path search fragment) extent =
        r.matchLocation (structured path search) extent) ∧
    ∀ (r : Route) (values : Option Params) (query : Option Query),
      r.replace (parse (written path search fragment)) values query =
        r.replace (structured path search) values query := by
  have same := parse_written_eq rooted isPath noFragment fragment
  refine ⟨same, ?_, ?_, ?_⟩
  · intro text given unmarked
    rw [same, Option.mem_def.mp given, withSearch_eq_structured path unmarked]
  · intro r extent
    rw [matchUrl, same]
  · intro r values query
    rw [same]

/-- A path of dots, slashes and characters that a URL would lose, with marks of both kinds behind the
marks that count. -/
theorem parse_written_dots :
    let path := "//a/../\tb c"
    let text := "??x=1&y=\n"
    let r : Route := ⟨"//a/../:name", ⟨[.literal "//a/..", .param ⟨"name", false⟩ (some '/')]⟩, true⟩
    written path (some text) (some "t?o#p") = "//a/../\tb c???x=1&y=\n#t?o#p" ∧
      parse (written path (some text) (some "t?o#p")) = ⟨path, some text⟩ ∧
      parse (written path (some "x=1") none) = (ofPath path).withSearch "x=1" ∧
      r.matchUrl (written path (some text) (some "t?o#p")) .whole =
        r.matchLocation (structured path (some text)) .whole := by
  intro path text r
  have rooted : path.toList.head? = some '/' := by decide
  have isPath : IsPath path.toList := by decide
  have noFragment : ∀ given ∈ some text, '#' ∉ given.toList := by decide
  have noFragmentToo : ∀ given ∈ some "x=1", '#' ∉ given.toList := by decide
  have laws := parse_written rooted isPath noFragment (some "t?o#p")
  have plain := parse_written rooted isPath noFragmentToo none
  refine ⟨by decide +kernel, ?_, plain.2.1 "x=1" rfl (by decide), laws.2.2.1 r .whole⟩
  rw [laws.1, structured_eq]

end Route
end PathTemplate
