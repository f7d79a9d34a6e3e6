import PathTemplate.Proofs.Matching.Segments
import PathTemplate.Proofs.Route.Formatting
import PathTemplate.Proofs.Template.Writing

namespace PathTemplate

/-!
# Values stay in their places

A formatted URL is the filled path and the search string of the query, and it is read as just these.
Every value is encoded, and so are the names and values of the query, so none of the characters that
structure a URL comes from them.  What they can decide is which optional parameters are left out:
the slashes of the path are those of the literals, and one for each parameter that takes a value
behind a slash.

The path is only read as it was written if it is rooted.  A template may begin with a value, and what
that makes of a URL is not told here.
-/

namespace Part

/-- The slashes of a literal. -/
def literalSlashes : Part → Nat
  | literal text => text.toList.count '/'
  | param _ _ => 0

/-- Whether a part is a parameter that takes a value behind a slash. -/
def takesSegment (values : Params) : Part → Bool
  | literal _ => false
  | param key separator => separator == some '/' && (values.nonempty? key.name).isSome

variable {values : Params}

/-- Encoding leaves no slash in a value, so a part has the slashes of its text and its separator. -/
theorem count_slash_fill {part : Part} {here : List Char} (filled : part.fill values = .ok here) :
    here.count '/' = part.literalSlashes + if part.takesSegment values then 1 else 0 := by
  cases part with
  | literal text =>
      cases filled
      rfl
  | param key separator =>
      rcases Template.fill_param_eq_ok.mp filled with ⟨value, found, rfl⟩ | ⟨absent, -, rfl⟩
      · have encoded : (Percent.encode value.toList).count '/' = 0 := by
          rw [List.count_eq_zero]
          exact Percent.not_mem_encode (by decide) (by decide)
        rw [List.count_append, encoded, literalSlashes, takesSegment, found]
        cases separator with
        | none => rfl
        | some c =>
            by_cases slash : c = '/'
            · subst slash
              rfl
            · simp [slash]
      · rw [literalSlashes, takesSegment, absent]
        simp

/-- The only parts that leave no trace are optional parameters without a value. -/
theorem eq_nil_iff_omits {part : Part} (wellFormed : part.WellFormed) {here : List Char}
    (filled : part.fill values = .ok here) : here = [] ↔ values.Omits part := by
  cases part with
  | literal text =>
      cases filled
      rw [String.toList_eq_nil_iff]
      exact iff_of_false wellFormed id
  | param key separator =>
      rcases Template.fill_param_eq_ok.mp filled with ⟨value, found, rfl⟩ | ⟨absent, optional, rfl⟩
      · have written : Percent.encode value.toList ≠ [] :=
          Percent.encode_ne_nil (Params.nonempty?_ne_empty found)
        have kept : ¬ values.Omits (.param key separator) := by
          intro omits
          rw [omits.2] at found
          cases found
        exact iff_of_false (List.append_ne_nil_of_right_ne_nil _ written) kept
      · exact iff_of_true rfl ⟨optional, absent⟩

end Part

namespace Template

variable {values : Params} {parts : List Part} {path : List Char}

theorem count_slash_fillParts (filled : fillParts values parts = .ok path) :
    path.count '/' =
      (parts.map Part.literalSlashes).sum + parts.countP (Part.takesSegment values) := by
  induction parts generalizing path with
  | nil =>
      cases filled
      rfl
  | cons part parts inductionHypothesis =>
      rcases fillParts_cons_eq_ok.mp filled with ⟨here, after, first, later, rfl⟩
      calc
        (here ++ after).count '/' = here.count '/' + after.count '/' := List.count_append
        _ = (part.literalSlashes + if part.takesSegment values then 1 else 0) +
            ((parts.map Part.literalSlashes).sum + parts.countP (Part.takesSegment values)) := by
          rw [Part.count_slash_fill first, inductionHypothesis later]
        _ = ((part :: parts).map Part.literalSlashes).sum +
            (part :: parts).countP (Part.takesSegment values) := by
          rw [List.map_cons, List.sum_cons, List.countP_cons]
          omega

/-- The filled path is empty if everything is dropped, and in no other case. -/
theorem eq_nil_iff_forall_omits (wellFormed : ∀ part ∈ parts, part.WellFormed)
    (filled : fillParts values parts = .ok path) :
    path = [] ↔ ∀ part ∈ parts, values.Omits part := by
  induction parts generalizing path with
  | nil =>
      cases filled
      exact iff_of_true rfl nofun
  | cons part parts inductionHypothesis =>
      rcases fillParts_cons_eq_ok.mp filled with ⟨here, after, first, later, rfl⟩
      have both := List.forall_mem_cons.mp wellFormed
      rw [List.append_eq_nil_iff, List.forall_mem_cons, Part.eq_nil_iff_omits both.1 first,
        inductionHypothesis both.2 later]

end Template

namespace Route

/-- A rooted URL that was formatted is read as the filled path and the search string of the query,
which is there if the query has entries and gives the query back.  The path has the slashes of the
literals and one for each parameter that takes a value behind a slash; it is a single slash if
everything is dropped.  It contains no question mark, and the URL contains no hash sign. -/
theorem parse_format_confined {text : String} {caseSensitive : Bool} {r : Route}
    (compiled : compile text caseSensitive = .ok r) (pathLike : r.template.IsPathLike)
    {values : Params} {query : Option Query} {url : String}
    (formatted : r.format values query = .ok url) (rooted : url.toList.head? = some '/') :
    let shown := query.filter (fun q => !q.isEmpty)
    ∃ path, r.template.fill values = .ok path ∧
      (Location.parse url).pathname = path ∧
      (Location.parse url).rawSearch = shown.map Query.serialize ∧
      (Location.parse url).search = shown.map Query.serialize ∧
      (Location.parse url).search.map Query.parse = shown ∧
      path.toList.count '/' =
        (if ∀ part ∈ r.template.parts, values.Omits part then 1
        else (r.template.parts.map Part.literalSlashes).sum +
          r.template.parts.countP (Part.takesSegment values)) ∧
      '?' ∉ path.toList ∧ '#' ∉ url.toList := by
  intro shown
  rcases format_eq_ok.mp formatted with ⟨filled, parts, rfl⟩
  have ok := (compile_eq_ok compiled).1
  have isPath := Template.isPath_fillParts pathLike (isSeparator_of_compile compiled) parts
  have isPathOrRoot := isPath_pathOrRoot isPath
  have pathRooted : (Location.pathOrRoot filled).toList.head? = some '/' := by
    rwa [Location.head?_pathOrRoot_append] at rooted
  have parsed := parse_formatted isPath pathRooted query
  rw [searchOf_eq] at parsed
  have slashes : (Location.pathOrRoot filled).toList.count '/' =
      if ∀ part ∈ r.template.parts, values.Omits part then 1
      else (r.template.parts.map Part.literalSlashes).sum +
        r.template.parts.countP (Part.takesSegment values) := by
    have dropped := Template.eq_nil_iff_forall_omits (Template.wellFormed_of_read ok).parts parts
    by_cases nothing : filled = []
    · rw [if_pos (dropped.mp nothing), nothing]
      rfl
    · rw [if_neg (mt dropped.mpr nothing), Location.pathOrRoot, if_neg nothing,
        String.toList_ofList, Template.count_slash_fillParts parts]
  refine ⟨Location.pathOrRoot filled, Template.fill_eq_ok.mpr ⟨filled, parts, rfl⟩, ?_, ?_, ?_, ?_,
    slashes, isPathOrRoot.noSearch, ?_⟩
  · rw [parsed]
  · rw [parsed]
  · rw [parsed, search_eq_rawSearch]
  · rw [parsed, ← searchOf_eq]
    exact search_searchOf (Location.pathOrRoot filled) query
  · rw [String.toList_append, List.mem_append, not_or, toList_searchSuffix]
    refine ⟨isPathOrRoot.noFragment, ?_⟩
    split
    · exact List.not_mem_nil
    · rw [List.mem_cons, not_or]
      exact ⟨by decide, fragment_not_mem_searchOf query⟩

/-- Values, names and a query of characters that structure URLs, behind all kinds of separators; one
value is empty and one is left out. -/
theorem parse_format_confined_files :
    let r : Route := ⟨"/files/v:id.:ext?/:tab?/:lang?", ⟨[.literal "/files/v",
      .param ⟨"id", false⟩ none, .param ⟨"ext", true⟩ (some '.'),
      .param ⟨"tab", true⟩ (some '/'), .param ⟨"lang", true⟩ (some '/')]⟩, true⟩
    let values := Params.ofPairs [("tab", "../#?&="), ("id", "a/b"), ("ext", ""), ("ghost", "/")]
    let query : Query := OrderedMap.ofList [("#/?", "&=%"), ("", "")]
    let url := "/files/va%2Fb/..%2F%23%3F%26%3D?%23%2F%3F=%26%3D%25&="
    compile "/files/v:id.:ext?/:tab?/:lang?" true = .ok r ∧ r.template.IsPathLike ∧
      r.format values (some query) = .ok url ∧ url.toList.head? = some '/' ∧
      ∃ path, r.template.fill values = .ok path ∧ (Location.parse url).pathname = path ∧
        (Location.parse url).search.map Query.parse = some query ∧ path.toList.count '/' = 3 := by
  intro r values query url
  have compiled : compile "/files/v:id.:ext?/:tab?/:lang?" true = .ok r := by decide +kernel
  have formatted : r.format values (some query) = .ok url := by decide +kernel
  have rooted : url.toList.head? = some '/' := by decide +kernel
  have pathLike : r.template.IsPathLike := by
    intro text member
    have same : text = "/files/v" := by simpa [r] using member
    rw [same]
    decide +kernel
  have slashes : (if ∀ part ∈ r.template.parts, values.Omits part then 1
      else (r.template.parts.map Part.literalSlashes).sum +
        r.template.parts.countP (Part.takesSegment values)) = 3 := by decide +kernel
  rcases parse_format_confined compiled pathLike formatted rooted with
    ⟨path, filled, pathname, -, -, searched, counted, -⟩
  exact ⟨compiled, pathLike, formatted, rooted, path, filled, pathname, searched,
    counted.trans slashes⟩

end Route
end PathTemplate
