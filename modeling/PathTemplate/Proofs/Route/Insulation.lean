import PathTemplate.Proofs.Matching.Delimitation
import PathTemplate.Proofs.Route.Formatting
import PathTemplate.Proofs.Url.Delimited
import PathTemplate.Proofs.Url.Settled

namespace PathTemplate

/-!
# Queries and fragments stay out of parameters

Whatever text is read as a location, its path is not empty and contains none of the characters that
end paths, and its search string contains none that begins a fragment.  A text is read as a URL or
cut by hand, and the two ways give the same guarantee: a URL has these characters escaped, and the
cuts are made in front of them.  A text that looks like an absolute URL but is none is cut as well.

That a value is free of a question mark does not say that it comes from the path.  So texts are also
compared with each other: two texts that are alike up to the first mark have the same path, whatever
follows the mark, and match with the same parameters or both not.
-/

namespace Location

/-- A location with a path that is not empty, where path and search string are separated from each
other and from a fragment. -/
structure Delimited (l : Location) : Prop where
  nonempty : l.pathname ≠ ""
  isPath : IsPath l.pathname.toList
  noFragment : ∀ search ∈ l.rawSearch, '#' ∉ search.toList

theorem pathOrRoot_ne_empty (path : List Char) : pathOrRoot path ≠ "" := by
  intro empty
  have noCharacters := pathOrRoot_ne_nil path
  rw [empty] at noCharacters
  exact noCharacters rfl

/-- What stands in front of a mark does not contain it. -/
theorem not_mem_takeWhile_ne (mark : Char) (text : List Char) :
    mark ∉ text.takeWhile (· ≠ mark) := by
  intro member
  have different := List.all_eq_true.mp List.all_takeWhile mark member
  simp at different

theorem delimited_split (text : String) : (split text).Delimited := by
  let body := text.toList.takeWhile (· ≠ '#')
  have noFragment : '#' ∉ body := not_mem_takeWhile_ne '#' text.toList
  have isPath : IsPath (body.takeWhile (· ≠ '?')) :=
    ⟨not_mem_takeWhile_ne '?' body,
      fun member => noFragment ((List.takeWhile_prefix _).subset member)⟩
  have behind : body.dropWhile (· ≠ '?') ⊆ body := (List.dropWhile_suffix _).subset
  unfold split
  dsimp only
  split
  · exact ⟨pathOrRoot_ne_empty _, Route.isPath_pathOrRoot isPath, nofun⟩
  · rename_i mark search rest
    refine ⟨pathOrRoot_ne_empty _, Route.isPath_pathOrRoot isPath, ?_⟩
    rintro _ ⟨⟩ member
    rw [String.toList_ofList] at member
    exact noFragment (behind (rest ▸ List.mem_cons_of_mem mark member))

/-- Every text is read as a delimited location. -/
theorem delimited_parse (text : String) : (parse text).Delimited := by
  unfold parse
  split
  · rename_i url read
    have delimited := Url.delimited_of_read? read
    refine ⟨pathOrRoot_ne_empty _, Route.isPath_pathOrRoot delimited.isPath, ?_⟩
    intro search given
    rcases Option.map_eq_some_iff.mp given with ⟨query, present, rfl⟩
    rw [String.toList_ofList]
    exact delimited.noFragment query present
  · exact delimited_split text

/-- The path of a text that is cut by hand is what stands in front of the first mark. -/
theorem pathname_split_append {path rest : String} (isPath : IsPath path.toList)
    (marked : Url.Marked rest.toList) : (split (path ++ rest)).pathname = pathOrRoot path.toList := by
  have body : ((path ++ rest).toList.takeWhile (· ≠ '#')).takeWhile (· ≠ '?') = path.toList := by
    rw [String.toList_append]
    rcases marked with ⟨mark, more, characters, rfl | rfl⟩
    · rw [characters, List.takeWhile_append_of_pos ?_, List.takeWhile_cons_of_pos (by decide),
        Boundary.takeWhile_append isPath.noSearch (.cons _)]
      intro c member
      simpa using fun same : c = '#' => isPath.noFragment (same ▸ member)
    · rw [characters, Boundary.takeWhile_append isPath.noFragment (.cons more)]
      have whole := Boundary.takeWhile_append isPath.noSearch .nil
      rwa [List.append_nil] at whole
  unfold split
  dsimp only
  rw [body]
  split <;> rfl

/-- Nothing behind the first mark of a text has a part in its path. -/
theorem pathname_parse_append {path first second : String} (isPath : IsPath path.toList)
    (oneMarked : Url.Marked first.toList) (otherMarked : Url.Marked second.toList) :
    (parse (path ++ first)).pathname = (parse (path ++ second)).pathname := by
  rcases Url.settles_read? isPath with ⟨settled, same⟩
  have pathname {rest : String} (marked : Url.Marked rest.toList) :
      (parse (path ++ rest)).pathname = pathOrRoot (settled.getD path.toList) := by
    have paths := same rest.toList marked
    rw [← String.toList_append] at paths
    unfold parse
    cases read : Url.read? (path ++ rest).toList with
    | some url =>
        rw [read] at paths
        rw [← paths]
        rfl
    | none =>
        rw [read] at paths
        rw [← paths]
        exact pathname_split_append isPath marked
  rw [pathname oneMarked, pathname otherMarked]

end Location

namespace Route

open Location (IsPath parse)

/-- Captures consist of characters of the path. -/
theorem subset_of_mem_captures {r : Route} {extent : Extent} {path raw : String}
    {captures : List (Option String)}
    (captured : (r.pattern extent).captures? path = some captures) (member : some raw ∈ captures) :
    raw.toList ⊆ path.toList := by
  rcases (r.template.captures?_eq_some_iff _ _ _ _).mp captured with ⟨choices, rfl, prefers⟩
  rcases List.mem_map.mp member with ⟨choice, chosen, written⟩
  rcases Option.map_eq_some_iff.mp written with ⟨value, rfl, rfl⟩
  rw [String.toList_ofList]
  exact prefers.1.subset_of_mem value chosen

/-- The parameters of a match are read from the path alone. -/
theorem params_matchLocation_congr (r : Route) {one other : Location}
    (same : one.pathname = other.pathname) (extent : Extent) :
    (r.matchLocation one extent).toOption.map Match.params =
      (r.matchLocation other extent).toOption.map Match.params := by
  rw [matchLocation_eq_bind, matchLocation_eq_bind, same]
  cases (r.pattern extent).captures? other.pathname with
  | none => rfl
  | some captures =>
      dsimp only
      cases bind r.keys captures <;> rfl

/-- Every text is read as a delimited location, so no capture contains a question mark or a hash
sign; and what follows the first of these in a text has no part in whether it matches and with which
parameters. -/
theorem matchUrl_insulated (text : String) :
    (parse text).Delimited ∧
    (∀ (r : Route) (extent : Extent) (captures : List (Option String)),
      (r.pattern extent).captures? (parse text).pathname = some captures →
        ∀ raw, some raw ∈ captures → IsPath raw.toList) ∧
    ∀ path rest : String, text = path ++ rest → IsPath path.toList → Url.Marked rest.toList →
      ∀ other : String, Url.Marked other.toList →
        (parse (path ++ other)).pathname = (parse text).pathname ∧
        ∀ (r : Route) (extent : Extent),
          (r.matchUrl (path ++ other) extent).toOption.map Match.params =
            (r.matchUrl text extent).toOption.map Match.params := by
  have delimited := Location.delimited_parse text
  refine ⟨delimited, ?_, ?_⟩
  · intro r extent captures captured raw member
    exact delimited.isPath.of_subset (subset_of_mem_captures captured member)
  · rintro path rest rfl isPath marked other otherMarked
    have same := Location.pathname_parse_append isPath otherMarked marked
    refine ⟨same, ?_⟩
    intro r extent
    exact r.params_matchLocation_congr same extent

/-- A URL behind a host, with slashes and marks in its query and in its fragment. -/
theorem matchUrl_insulated_host :
    let path := "http://h/files/a b"
    let rest := "?q=/x?y#/z?"
    let other := "#/u?v"
    let r : Route :=
      ⟨"/files/:name", ⟨[.literal "/files", .param ⟨"name", false⟩ (some '/')]⟩, true⟩
    (parse (path ++ rest)).Delimited ∧
      (r.pattern .whole).captures? (parse (path ++ rest)).pathname = some [some "a%20b"] ∧
      IsPath "a%20b".toList ∧
      IsPath path.toList ∧ Url.Marked rest.toList ∧ Url.Marked other.toList ∧
      (parse (path ++ other)).pathname = (parse (path ++ rest)).pathname ∧
      (r.matchUrl (path ++ other) .whole).toOption.map Match.params =
        (r.matchUrl (path ++ rest) .whole).toOption.map Match.params := by
  intro path rest other r
  have captured :
      (r.pattern .whole).captures? (parse (path ++ rest)).pathname = some [some "a%20b"] := by
    decide +kernel
  have isPath : IsPath path.toList := by decide
  have marked : Url.Marked rest.toList := ⟨'?', "q=/x?y#/z?".toList, by decide, .inl rfl⟩
  have otherMarked : Url.Marked other.toList := ⟨'#', "/u?v".toList, by decide, .inr rfl⟩
  have laws := matchUrl_insulated (path ++ rest)
  have free := laws.2.1 r .whole _ captured "a%20b" List.mem_cons_self
  have alike := laws.2.2 path rest rfl isPath marked other otherMarked
  exact ⟨laws.1, captured, free, isPath, marked, otherMarked, alike.1, alike.2 r .whole⟩

end Route
end PathTemplate
