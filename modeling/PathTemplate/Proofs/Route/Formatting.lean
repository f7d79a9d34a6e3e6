import PathTemplate.Proofs.Location
import PathTemplate.Proofs.Query
import PathTemplate.Proofs.Route.Compilation
import PathTemplate.Proofs.Template.Filling
import PathTemplate.Proofs.Text.CaseFold

namespace PathTemplate

/-!
# What a formatted URL says

A URL is built from the path that fills the template and the search string of the query.  If the
path is rooted and the literals of the template leave its end recognizable, then the URL is read as
just these two again: the values are encoded, and so are the names and values of the query, so no
question mark or hash sign comes from either.
-/

namespace Template

/-- The literals of a template contain no character that ends a path. -/
def IsPathLike (t : Template) : Prop :=
  ∀ text, Part.literal text ∈ t.parts → Location.IsPath text.toList

theorem fill_eq_ok {t : Template} {values : Params} {path : String} :
    t.fill values = .ok path ↔
      ∃ filled, fillParts values t.parts = .ok filled ∧ path = Location.pathOrRoot filled := by
  rw [fill]
  cases result : fillParts values t.parts with
  | error e => simp [bind, Except.bind]
  | ok filled =>
      cases filled with
      | nil => simp [bind, Except.bind, pure, Except.pure, Location.pathOrRoot, eq_comm]
      | cons c rest => simp [bind, Except.bind, pure, Except.pure, Location.pathOrRoot, eq_comm]

theorem fill_eq_error {t : Template} {values : Params} {e : Error} :
    t.fill values = .error e ↔ fillParts values t.parts = .error e := by
  rw [fill]
  cases fillParts values t.parts with
  | error other => simp [bind, Except.bind]
  | ok filled => cases filled <;> simp [bind, Except.bind, pure, Except.pure]

private theorem isPath_encode (cs : List Char) : Location.IsPath (Percent.encode cs) where
  noSearch := Percent.not_mem_encode (by decide) (by decide)
  noFragment := Percent.not_mem_encode (by decide) (by decide)

private theorem isPath_separator {c : Char} (separates : isSeparator c = true) :
    Location.IsPath [c] := by
  constructor <;>
    · intro member
      rw [List.mem_singleton] at member
      subst member
      exact absurd separates (by decide)

/-- Filling adds only separators and encoded values to the literals. -/
theorem isPath_fillParts {values : Params} {parts : List Part}
    (literals : ∀ text, .literal text ∈ parts → Location.IsPath text.toList)
    (separates : ∀ key c, .param key (some c) ∈ parts → isSeparator c = true) {path : List Char}
    (filled : fillParts values parts = .ok path) : Location.IsPath path :=
  fillParts_induction _ ⟨List.not_mem_nil, List.not_mem_nil⟩ Location.IsPath.append literals
    (fun key c member => isPath_separator (separates key c member))
    (fun _ _ _ _ => isPath_encode _) filled

end Template

namespace Location

/-- What holds of the root and of a path holds of the path as it is kept. -/
theorem pathOrRoot_induction (Holds : List Char → Prop) (root : Holds ['/']) {path : List Char}
    (ofPath : Holds path) : Holds (pathOrRoot path).toList := by
  unfold pathOrRoot
  split
  · exact root
  · rwa [String.toList_ofList]

theorem pathOrRoot_ne_nil (path : List Char) : (pathOrRoot path).toList ≠ [] := by
  unfold pathOrRoot
  split
  · decide
  · rwa [String.toList_ofList]

/-- What is written behind a path as it is kept does not change how that begins. -/
theorem head?_pathOrRoot_append (path : List Char) (suffix : String) :
    (pathOrRoot path ++ suffix).toList.head? = (pathOrRoot path).toList.head? := by
  rw [String.toList_append, List.head?_append_of_ne_nil _ (pathOrRoot_ne_nil path)]

end Location

/-- The path that is kept for a filled one differs from it only if that is empty.  At most a slash
is left behind it, and no slash is if there is one before. -/
theorem Location.toList_pathOrRoot (path : List Char) :
    ∃ rest, (pathOrRoot path).toList = path ++ rest ∧ Extent.whole.Leaves rest ∧
      (path ≠ [] → Extent.whole.Leaves ('/' :: rest)) := by
  rw [pathOrRoot]
  split
  · rename_i empty
    subst empty
    exact ⟨['/'], rfl, Or.inr rfl, fun nonempty => absurd rfl nonempty⟩
  · exact ⟨[], by rw [String.toList_ofList, List.append_nil], Or.inl rfl, fun _ => Or.inr rfl⟩

/-- A filled template reads its own path. -/
theorem Template.reads_filled {t : Template} {values : Params} {path : List Char}
    (filled : fillParts values t.parts = .ok path) (dotless : Dotless values t.parts)
    (caseSensitive : Bool) :
    t.Reads .whole caseSensitive (Location.pathOrRoot path) (values.written t.keys) := by
  rcases Location.toList_pathOrRoot path with ⟨rest, characters, leaves, slash⟩
  rw [Reads, characters]
  exact decomposes_fillParts (CaseFold.agree_self caseSensitive) filled dotless leaves slash

namespace Route

/-- The search string of a query that may be missing. -/
def searchOf (query : Option Query) : String :=
  query.elim "" Query.serialize

theorem format_eq_ok {r : Route} {values : Params} {query : Option Query} {url : String} :
    r.format values query = .ok url ↔
      ∃ path, Template.fillParts values r.template.parts = .ok path ∧
        url = Location.pathOrRoot path ++ searchSuffix (searchOf query) := by
  constructor
  · intro formatted
    cases result : r.template.fill values with
    | error e =>
        rw [format, result] at formatted
        cases formatted
    | ok path =>
        rw [format, result] at formatted
        cases formatted
        rcases Template.fill_eq_ok.mp result with ⟨filled, parts, rfl⟩
        exact ⟨filled, parts, rfl⟩
  · rintro ⟨path, filled, rfl⟩
    rw [format, Template.fill_eq_ok.mpr ⟨path, filled, rfl⟩]
    rfl

/-- Formatting fails for the first required parameter without a value, and for nothing else. -/
theorem format_eq_error {r : Route} {values : Params} {query : Option Query} {e : Error} :
    r.format values query = .error e ↔
      ∃ key, values.firstMissing? r.keys = some key ∧ e = .missingParameter key.name := by
  rw [keys, Template.keys, ← Template.fillParts_eq_error, ← Template.fill_eq_error, format]
  cases r.template.fill values with
  | error other => exact Iff.rfl
  | ok path =>
      constructor
      · intro impossible
        cases impossible
      · intro impossible
        cases impossible

/-- There is a URL as soon as no parameter is missed, whatever the query. -/
theorem exists_format_eq_ok {r : Route} {values : Params} {query : Option Query} :
    (∃ url, r.format values query = .ok url) ↔ values.firstMissing? r.keys = none := by
  constructor
  · intro succeeded
    rcases succeeded with ⟨url, formatted⟩
    cases missing : values.firstMissing? r.keys with
    | none => rfl
    | some key =>
        have failed : r.format values query = .error (.missingParameter key.name) :=
          format_eq_error.mpr ⟨key, missing, rfl⟩
        rw [failed] at formatted
        cases formatted
  · intro supplied
    cases result : r.format values query with
    | ok url => exact ⟨url, rfl⟩
    | error e =>
        rcases format_eq_error.mp result with ⟨key, missing, -⟩
        rw [supplied] at missing
        cases missing

/-! ## Reading a formatted URL -/

@[simp] theorem toList_searchSuffix (search : String) :
    (searchSuffix search).toList = if search = "" then [] else '?' :: search.toList := by
  rw [searchSuffix]
  split
  · rfl
  · simp

/-- A rooted path with a search string behind it is a location of just these two. -/
theorem parse_append_searchSuffix {path search : String} (isPath : Location.IsPath path.toList)
    (rooted : path.toList.head? = some '/') (noFragment : '#' ∉ search.toList) :
    Location.parse (path ++ searchSuffix search) =
      ⟨path, if search = "" then none else some search⟩ := by
  have nonempty : path.toList ≠ [] := by
    intro empty
    rw [empty] at rooted
    cases rooted
  have text : path ++ searchSuffix search =
      String.ofList (path.toList ++ (searchSuffix search).toList) := by
    rw [String.ofList_append, String.ofList_toList, String.ofList_toList]
  have textRooted : (path ++ searchSuffix search).toList.head? = some '/' := by
    simp [rooted]
  rw [Location.parse_rooted textRooted, text, toList_searchSuffix]
  by_cases empty : search = ""
  · rw [if_pos empty, if_pos empty,
      Location.split_append isPath nonempty .nil List.not_mem_nil, String.ofList_toList]
    rfl
  · have noFragmentBehind : '#' ∉ '?' :: search.toList := by
      rw [List.mem_cons, not_or]
      exact ⟨by decide, noFragment⟩
    rw [if_neg empty, if_neg empty,
      Location.split_append isPath nonempty (.cons _) noFragmentBehind]
    simp

theorem fragment_not_mem_searchOf (query : Option Query) :
    '#' ∉ (searchOf query).toList := by
  cases query with
  | none => exact List.not_mem_nil
  | some q => exact q.fragment_not_mem_serialize

/-- Only a query with entries has a search string. -/
theorem searchOf_eq (query : Option Query) :
    (if searchOf query = "" then none else some (searchOf query)) =
      (query.filter (fun q => !q.isEmpty)).map Query.serialize := by
  cases query with
  | none => rfl
  | some q =>
      by_cases empty : q.entries = []
      · have noQuery : q = OrderedMap.empty := OrderedMap.ext empty
        subst noQuery
        rfl
      · have shown : searchOf (some q) ≠ "" := q.serialize_ne_empty empty
        have kept : q.isEmpty = false := List.isEmpty_eq_false_iff.mpr empty
        rw [if_neg shown, Option.filter_some, kept]
        rfl

/-- A search string that comes from a query is never passed over as blank. -/
theorem search_eq_rawSearch (path : String) (query : Option Query) :
    (Location.mk path ((query.filter (fun q => !q.isEmpty)).map Query.serialize)).search =
      (query.filter (fun q => !q.isEmpty)).map Query.serialize := by
  cases shown : query.filter (fun q => !q.isEmpty) with
  | none => rfl
  | some q =>
      have nonempty : q.entries ≠ [] := by
        have kept := (Option.filter_eq_some_iff.mp shown).2
        rwa [Bool.not_eq_true', OrderedMap.isEmpty, List.isEmpty_eq_false_iff] at kept
      rw [Location.search, Option.map_some, Option.filter_some, q.not_blank_serialize nonempty]
      rfl

/-- The query that a formatted URL shows: none if there is none to show. -/
theorem search_searchOf (path : String) (query : Option Query) :
    (Location.mk path (if searchOf query = "" then none else some (searchOf query))).search.map
      Query.parse = query.filter (fun q => !q.isEmpty) := by
  have readBack : Query.parse ∘ Query.serialize = id := funext Query.parse_serialize_eq
  calc
    (Location.mk path (if searchOf query = "" then none else some (searchOf query))).search.map
        Query.parse =
        ((query.filter (fun q => !q.isEmpty)).map Query.serialize).map Query.parse := by
      rw [searchOf_eq, search_eq_rawSearch]
    _ = query.filter (fun q => !q.isEmpty) := by
      rw [Option.map_map, readBack, Option.map_id_fun, id]

theorem isPath_pathOrRoot {path : List Char} (isPath : Location.IsPath path) :
    Location.IsPath (Location.pathOrRoot path).toList :=
  Location.pathOrRoot_induction Location.IsPath (by decide) isPath

/-- A formatted URL with a rooted path is read as that path and the query it was given. -/
theorem parse_formatted {path : List Char} (isPath : Location.IsPath path)
    (rooted : (Location.pathOrRoot path).toList.head? = some '/') (query : Option Query) :
    Location.parse (Location.pathOrRoot path ++ searchSuffix (searchOf query)) =
      ⟨Location.pathOrRoot path, if searchOf query = "" then none else some (searchOf query)⟩ :=
  parse_append_searchSuffix (isPath_pathOrRoot isPath) rooted (fragment_not_mem_searchOf query)

/-- The captures of a pattern are as many as there are parameters, so matching never gives up for
their number. -/
theorem matchLocation_eq_bind (r : Route) (l : Location) (extent : Extent) :
    r.matchLocation l extent =
      match (r.pattern extent).captures? l.pathname with
      | none => .noMatch
      | some captures =>
          match bind r.keys captures with
          | none => .noMatch
          | some values => .found ⟨OrderedMap.ofList values, l.search.map Query.parse⟩ := by
  rw [matchLocation]
  cases captured : (r.pattern extent).captures? l.pathname with
  | none => rfl
  | some captures =>
      have sameLength : captures.length = r.keys.length := Template.length_of_captures? captured
      exact if_pos sameLength

/-- What is found in such a URL depends on its path, and the query is found as it was given. -/
theorem matchUrl_formatted {r : Route} {path : List Char} (isPath : Location.IsPath path)
    (rooted : (Location.pathOrRoot path).toList.head? = some '/') (query : Option Query)
    (extent : Extent) :
    r.matchUrl (Location.pathOrRoot path ++ searchSuffix (searchOf query)) extent =
      match (r.pattern extent).captures? (Location.pathOrRoot path) with
      | none => .noMatch
      | some captures =>
          match bind r.keys captures with
          | none => .noMatch
          | some values =>
              .found ⟨OrderedMap.ofList values, query.filter (fun q => !q.isEmpty)⟩ := by
  rw [matchUrl, parse_formatted isPath rooted, matchLocation_eq_bind,
    ← search_searchOf (Location.pathOrRoot path) query]

end Route
end PathTemplate
