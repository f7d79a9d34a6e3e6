import PathTemplate.Proofs.Location
import PathTemplate.Proofs.Url.Path

namespace PathTemplate
namespace Url

open Location (IsPath)

/-!
# What an absolute URL consists of

The path of a URL contains no question mark and no hash sign, and its query contains no hash sign.
Both parts are cut out in front of these characters, and they would be escaped in them as well, so
that the characters do not come back when a path is resolved.  This holds for every kind of scheme,
and for the drives of files, which are the one thing that is written anew.
-/

/-- A character that has to be escaped does not occur in escaped text, unless escapes are written
with it. -/
theorem not_mem_escapeChar {escaped : List Char} {d : Char} (reserved : d ∈ escaped)
    (notPercent : d ≠ '%') (notDigit : d.isAlphanum = false) (c : Char) :
    d ∉ escapeChar escaped c := by
  intro member
  unfold escapeChar at member
  split at member
  · rw [List.mem_flatMap] at member
    rcases member with ⟨b, -, written⟩
    rcases Percent.mem_escapeByte written with percent | ⟨n, small, rfl⟩
    · exact notPercent percent
    · rw [Percent.hexDigit_isAlphanum small] at notDigit
      cases notDigit
  · rename_i kept
    cases List.mem_singleton.mp member
    simp only [Bool.or_eq_true, List.contains_iff_mem, not_or] at kept
    exact kept.2 reserved

theorem not_mem_flatMap_escapeChar {escaped : List Char} {d : Char} (reserved : d ∈ escaped)
    (notPercent : d ≠ '%') (notDigit : d.isAlphanum = false) (text : List Char) :
    d ∉ text.flatMap (escapeChar escaped) := by
  intro member
  rcases List.mem_flatMap.mp member with ⟨c, -, written⟩
  exact not_mem_escapeChar reserved notPercent notDigit c written

namespace Path

theorem isPath_escape (segment : List Char) : IsPath (escape segment) where
  noSearch := not_mem_flatMap_escapeChar (by decide) (by decide) (by decide) segment
  noFragment := not_mem_flatMap_escapeChar (by decide) (by decide) (by decide) segment

theorem isPath_writeDrive {segment : List Char} (isPath : IsPath segment) :
    IsPath (writeDrive segment) := by
  unfold writeDrive
  split
  · rename_i letter mark
    split
    · have first : IsPath [letter] := isPath.of_subset (by simp)
      have colon : IsPath [':'] := by decide
      exact first.append colon
    · exact isPath
  · exact isPath

/-- Every segment that is left is free of the marks behind a path. -/
theorem isPath_of_mem_resolve {s : Scheme} {segments kept : List (List Char)}
    (before : ∀ segment ∈ kept, IsPath segment) :
    ∀ segment ∈ resolve s kept segments, IsPath segment := by
  have ended {others : List (List Char)} (plain : ∀ segment ∈ others, IsPath segment) :
      ∀ segment ∈ ([] :: others).reverse, IsPath segment := by
    intro segment member
    rcases List.mem_cons.mp (List.mem_reverse.mp member) with rfl | earlier
    · exact .nil
    · exact plain segment earlier
  induction segments generalizing kept with
  | nil =>
      intro segment member
      exact before segment (List.mem_reverse.mp member)
  | cons first segments inductionHypothesis =>
      have shorter : ∀ segment ∈ dropLast s kept, IsPath segment := by
        intro segment member
        exact before segment (mem_dropLast member)
      have longer : ∀ segment ∈ keep s kept first, IsPath segment := by
        intro segment member
        rcases List.mem_cons.mp member with rfl | earlier
        · split
          · exact isPath_writeDrive (isPath_escape first)
          · exact isPath_escape first
        · exact before segment earlier
      rw [resolve]
      split
      · split
        · exact ended before
        · exact inductionHypothesis before
      · dsimp only
        split
        · exact ended shorter
        · exact inductionHypothesis shorter
      · exact inductionHypothesis longer

theorem isPath_write {segments : List (List Char)} (plain : ∀ segment ∈ segments, IsPath segment) :
    IsPath (write segments) := by
  induction segments with
  | nil => exact .nil
  | cons segment segments inductionHypothesis =>
      have each := List.forall_mem_cons.mp plain
      have slash : IsPath ['/'] := by decide
      exact (slash.append each.1).append (inductionHypothesis each.2)

theorem isPath_read (s : Scheme) (cs : List Char) : IsPath (read s cs) := by
  have written : IsPath (write (resolve s [] (segments s cs))) :=
    isPath_write (isPath_of_mem_resolve (fun _ member => nomatch member))
  unfold read
  dsimp only
  split
  · have slash : IsPath ['/'] := by decide
    exact slash.append (written.of_subset (List.dropWhile_suffix _).subset)
  · exact written

end Path

/-- A URL with a path and a query that are separated from each other and from a fragment. -/
structure Delimited (url : Url) : Prop where
  isPath : IsPath url.path
  noFragment : ∀ query ∈ url.query, '#' ∉ query

theorem fragment_not_mem_readQuery {s : Scheme} {cs query : List Char}
    (read : readQuery s cs = some query) : '#' ∉ query := by
  unfold readQuery at read
  split at read
  · cases read
    have reserved : '#' ∈ queryEscaped s := List.mem_append_left _ (by decide)
    exact not_mem_flatMap_escapeChar reserved (by decide) (by decide) _
  · cases read

theorem delimited_ofPath (s : Scheme) (cs : List Char) : (ofPath s cs).Delimited where
  isPath := Path.isPath_read s _
  noFragment _ read := fragment_not_mem_readQuery read

theorem delimited_ofRest (s : Scheme) (cs : List Char) : (ofRest s cs).Delimited := by
  have pathless (query : Option (List Char)) (plain : ∀ text ∈ query, '#' ∉ text) :
      Delimited ⟨[], query⟩ := ⟨.nil, plain⟩
  unfold ofRest
  split
  · split
    · exact delimited_ofPath s _
    · split
      · exact pathless _ (fun _ read => fragment_not_mem_readQuery read)
      · exact delimited_ofPath s _
  · split
    · exact delimited_ofPath s []
    · exact pathless none nofun

theorem delimited_of_readFile? {cs : List Char} {url : Url} (read : readFile? cs = some url) :
    url.Delimited := by
  unfold readFile? at read
  split at read
  · split at read
    · dsimp only at read
      split at read
      · cases read
        exact delimited_ofPath .file _
      · split at read
        · cases read
          exact delimited_ofPath .file _
        · split at read
          · cases read
          · split at read
            · cases read
              exact delimited_ofPath .file _
            · cases read
              exact delimited_ofRest .file _
    · cases read
      exact delimited_ofRest .file _
  · cases read
    exact delimited_ofRest .file _

/-- Every absolute URL is read as a path without marks and a query without a fragment. -/
theorem delimited_of_read? {cs : List Char} {url : Url} (read : read? cs = some url) :
    url.Delimited := by
  rw [read?] at read
  unfold readClean? at read
  split at read
  · cases read
  · exact delimited_of_readFile? read
  · rcases Option.map_eq_some_iff.mp read with ⟨rest, -, rfl⟩
    exact delimited_ofRest .web rest
  · rcases Option.map_eq_some_iff.mp read with ⟨rest, -, rfl⟩
    exact delimited_ofRest .other rest
  · cases read
    exact delimited_ofPath .other _
  · cases read

end Url
end PathTemplate
