import PathTemplate.Proofs.Route.Membership
import PathTemplate.Proofs.Url.Reader

namespace PathTemplate

/-!
# Formatted URLs behind a host

A formatted URL may be put behind a scheme and a host.  It is then read by other rules, and these
resolve the path: the same path and the same query are found exactly if no segment of the path
consists of one or two dots.  Dots are not escaped when a template is filled, and escaping them
would not help, since an escaped dot counts as a dot in an absolute URL.

Templates whose literals contain no dot can only be filled to such a segment with the values `.` and
`..`, so no other value moves, adds or takes away a segment.
-/

/-- Whether a character of a literal is one that a URL keeps, and no dot. -/
def isPlainInLiteral (c : Char) : Bool :=
  c.isAlphanum || c == '-' || c == '_' || c == '~' || c == '/'

namespace Template

/-- The literals of a template contain nothing but letters, digits, slashes and the three marks that
are kept. -/
def IsPlain (t : Template) : Prop :=
  ∀ text, .literal text ∈ t.parts → ∀ c ∈ text.toList, isPlainInLiteral c = true

variable {t : Template} {values : Params} {path : List Char}

theorem IsPlain.not_mem (plain : t.IsPlain) {c : Char} (reserved : isPlainInLiteral c = false)
    {text : String} (member : .literal text ∈ t.parts) : c ∉ text.toList := by
  intro within
  rw [plain text member c within] at reserved
  cases reserved

theorem IsPlain.isPercentFree (plain : t.IsPlain) : t.IsPercentFree := by
  intro text member
  exact plain.not_mem (by decide) member

theorem IsPlain.isPathLike (plain : t.IsPlain) : t.IsPathLike := by
  intro text member
  exact ⟨plain.not_mem (by decide) member, plain.not_mem (by decide) member⟩

theorem isPlain_fillParts (plain : t.IsPlain)
    (separates : ∀ key c, .param key (some c) ∈ t.parts → isSeparator c = true)
    (filled : fillParts values t.parts = .ok path) : ∀ c ∈ path, Url.isPlain c = true := by
  refine fillParts_induction (fun text => ∀ c ∈ text, Url.isPlain c = true) nofun ?_ ?_ ?_ ?_ filled
  · intro first second one other
    exact List.forall_mem_append.mpr ⟨one, other⟩
  · intro text member c within
    have kept := plain text member c within
    simp only [isPlainInLiteral, Bool.or_eq_true] at kept
    rcases kept with (((alphanum | hyphen) | underscore) | tilde) | slash
    · simp [Url.isPlain, Percent.isUnreserved, alphanum]
    · simp [Url.isPlain, Percent.isUnreserved, hyphen]
    · simp [Url.isPlain, Percent.isUnreserved, underscore]
    · simp [Url.isPlain, Percent.isUnreserved, tilde]
    · simp [Url.isPlain, slash]
  · intro key c member d within
    rw [List.mem_singleton.mp within]
    rcases eq_slash_or_dot (separates key c member) with rfl | rfl <;> decide
  · intro key declared value found c within
    rcases Percent.encode_unreserved within with kept | percent
    · simp [Url.isPlain, kept]
    · simp [Url.isPlain, percent]

/-- Encoding makes dots of dots only. -/
private theorem isDots_encode {value : String}
    (dots : Url.Path.IsDots (Percent.encode value.toList)) : value = "." ∨ value = ".." := by
  have one : Percent.encode ".".toList = ['.'] := by decide
  have two : Percent.encode "..".toList = ['.', '.'] := by decide
  rcases dots with single | double
  · rw [← one] at single
    exact Or.inl (String.toList_inj.mp (Percent.encode_inj single))
  · rw [← two] at double
    exact Or.inr (String.toList_inj.mp (Percent.encode_inj double))

/-- Where literals have no dots, only the values of one or two dots make segments of dots. -/
theorem isResolved_fillParts (plain : t.IsPlain)
    (separates : ∀ key c, .param key (some c) ∈ t.parts → isSeparator c = true)
    (noDots : ∀ key ∈ t.keys, values.nonempty? key.name ≠ some "." ∧
      values.nonempty? key.name ≠ some "..")
    (filled : fillParts values t.parts = .ok path) : Url.Path.IsResolved path := by
  refine fillParts_induction_taken Url.Path.IsResolved (by decide) Url.Path.IsResolved.append ?_ ?_
    filled
  · intro text member
    exact Url.Path.isResolved_of_noDot (plain.not_mem (by decide) member)
  · -- A separator stays with its value: a dot on its own would be a segment of dots.
    intro key separator member value found
    have declared : key ∈ t.keys := List.mem_filterMap.mpr ⟨_, member, rfl⟩
    have noSlash : '/' ∉ Percent.encode value.toList :=
      Percent.not_mem_encode (by decide) (by decide)
    have different : ¬ Url.Path.IsDots (Percent.encode value.toList) := by
      intro dots
      have others := noDots key declared
      rw [found] at others
      rcases isDots_encode dots with rfl | rfl
      · exact others.1 rfl
      · exact others.2 rfl
    have alone := Url.Path.isResolved_of_not_mem noSlash different
    cases separator with
    | none => exact alone
    | some c =>
        rcases eq_slash_or_dot (separates key c member) with rfl | rfl
        · exact Url.Path.isResolved_cons_slash.mpr alone
        · have someValue := Percent.encode_ne_nil (Params.nonempty?_ne_empty found)
          have noSlashBehind : '/' ∉ '.' :: Percent.encode value.toList := by
            rw [List.mem_cons, not_or]
            exact ⟨by decide, noSlash⟩
          apply Url.Path.isResolved_of_not_mem noSlashBehind
          rintro (one | two)
          · exact someValue (List.cons.inj one).2
          · exact different (Or.inl (List.cons.inj two).2)

end Template

/-! ## The two readings -/

namespace Location

/-- A search string stands in a URL as its query, and as no query if it is empty. -/
private theorem exists_querySuffix (search : String) :
    ∃ query : Option (List Char), (Route.searchSuffix search).toList = Url.querySuffix query ∧
      query.map String.ofList = (if search = "" then none else some search) ∧
      ∀ text ∈ query, text = search.toList := by
  by_cases empty : search = ""
  · subst empty
    exact ⟨none, rfl, rfl, nofun⟩
  · refine ⟨some search.toList, ?_, ?_, ?_⟩
    · rw [Route.searchSuffix, if_neg empty, String.toList_append]
      rfl
    · rw [if_neg empty, Option.map_some, String.ofList_toList]
    · intro text same
      exact (Option.some.inj same).symm

/-- A path of plain characters behind a plain host is resolved. -/
private theorem parse_https {host path : List Char} {query : Option (List Char)}
    (plainHost : Url.Authority.IsPlainHost host) (plainPath : ∀ c ∈ path, Url.isPlain c = true)
    (plainQuery : ∀ text ∈ query, ∀ c ∈ text, Url.isPlain c = true) {text : String}
    (characters : text.toList =
      "https://".toList ++ (host ++ '/' :: (path ++ Url.querySuffix query))) :
    parse text = ⟨String.ofList (Url.Path.read .web path), query.map String.ofList⟩ := by
  have notFile : Url.Scheme.web ≠ .file := nofun
  have someSegment := Url.Path.read_ne_nil notFile path
  rw [parse, characters, Url.read?_https plainHost plainPath plainQuery]
  dsimp only
  rw [pathOrRoot, if_neg someSegment]

/-- A rooted path of plain characters, and a search string of plain characters behind it, are found
behind a host as they are if the path is resolved already, and only then. -/
theorem parse_https_iff {host path search : String}
    (plainHost : Url.Authority.IsPlainHost host.toList) (rooted : path.toList.head? = some '/')
    (plainPath : ∀ c ∈ path.toList, Url.isPlain c = true) (intact : Percent.Intact path.toList)
    (plainSearch : ∀ c ∈ search.toList, Url.isPlain c = true) :
    parse ("https://" ++ host ++ (path ++ Route.searchSuffix search)) =
      ⟨path, if search = "" then none else some search⟩ ↔ Url.Path.IsResolved path.toList := by
  have notFile : Url.Scheme.web ≠ .file := nofun
  rcases List.head?_eq_some_iff.mp rooted with ⟨rest, characters⟩
  rcases exists_querySuffix search with ⟨query, suffix, shown, searched⟩
  have whole : path = String.ofList ('/' :: rest) := by
    rw [← characters, String.ofList_toList]
  rw [characters] at plainPath intact ⊢
  have plainRest := (List.forall_mem_cons.mp plainPath).2
  have intactRest : Percent.Intact rest := (@Percent.Intact.cut [] rest '/' intact (by decide)).2
  have plainQuery : ∀ text ∈ query, ∀ c ∈ text, Url.isPlain c = true := by
    intro text member
    rw [searched text member]
    exact plainSearch
  have text : ("https://" ++ host ++ (path ++ Route.searchSuffix search)).toList =
      "https://".toList ++ (host.toList ++ '/' :: (rest ++ Url.querySuffix query)) := by
    simp [characters, suffix]
  have escapes : ∀ c ∈ rest, Url.escapeChar Url.Path.escaped c = [c] := by
    intro c member
    exact Url.escapeChar_of_isPlain (plainRest c member) (by decide)
  have noBackslash : '\\' ∉ rest := by
    intro member
    exact absurd (plainRest _ member) (by decide)
  calc
    parse ("https://" ++ host ++ (path ++ Route.searchSuffix search)) =
          ⟨path, if search = "" then none else some search⟩ ↔
        Location.mk (String.ofList (Url.Path.read .web rest)) (query.map String.ofList) =
          ⟨String.ofList ('/' :: rest), query.map String.ofList⟩ := by
      rw [parse_https plainHost plainRest plainQuery text, shown, whole]
    _ ↔ Url.Path.read .web rest = '/' :: rest := by
      rw [Location.mk.injEq, String.ofList_inj, and_iff_left rfl]
    _ ↔ Url.Path.IsResolved rest :=
      Url.Path.read_eq_iff notFile escapes noBackslash intactRest
    _ ↔ Url.Path.IsResolved ('/' :: rest) :=
      Url.Path.isResolved_cons_slash.symm

end Location

namespace Route

private theorem isPlain_searchOf (query : Option Query) :
    ∀ c ∈ (searchOf query).toList, Url.isPlain c = true := by
  intro c member
  cases query with
  | none => cases member
  | some q =>
      change c ∈ q.serialize.toList at member
      rw [q.toList_serialize] at member
      rcases Form.mem_writeAll member with kept | rfl | rfl | rfl
      · simp [Url.isPlain, kept]
      all_goals decide

/-- A formatted URL is read as the path its template was filled to.  It is read alike with a host in
front of it exactly if no segment of that path consists of one or two dots, and there is no such
segment unless a parameter has a value of one or two dots.  What is read alike is matched and
rewritten alike. -/
theorem parse_https_format_iff {text : String} {caseSensitive : Bool} {r : Route}
    (compiled : compile text caseSensitive = .ok r) (plain : r.template.IsPlain)
    {values : Params} {query : Option Query} {url : String}
    (formatted : r.format values query = .ok url) (rooted : url.toList.head? = some '/') :
    r.template.fill values = .ok (Location.parse url).pathname ∧
    (Location.parse ("https://example.com" ++ url) = Location.parse url ↔
      Url.Path.IsResolved (Location.parse url).pathname.toList) ∧
    ((∀ key ∈ r.keys, values.nonempty? key.name ≠ some "." ∧
        values.nonempty? key.name ≠ some "..") →
      Url.Path.IsResolved (Location.parse url).pathname.toList) ∧
    (Url.Path.IsResolved (Location.parse url).pathname.toList →
      (∀ extent, r.matchUrl ("https://example.com" ++ url) extent = r.matchUrl url extent) ∧
      ∀ newValues newQuery,
        r.replace (Location.parse ("https://example.com" ++ url)) newValues newQuery =
          r.replace (Location.parse url) newValues newQuery) := by
  rcases format_eq_ok.mp formatted with ⟨path, filled, same⟩
  have separates := isSeparator_of_compile compiled
  have isPath := Template.isPath_fillParts plain.isPathLike separates filled
  have plainPath := Template.isPlain_fillParts plain separates filled
  have intact := Template.intact_fillParts plain.isPercentFree separates filled
  have rootedPath : (Location.pathOrRoot path).toList.head? = some '/' := by
    rwa [same, Location.head?_pathOrRoot_append] at rooted
  have parsed : Location.parse url =
      ⟨Location.pathOrRoot path, if searchOf query = "" then none else some (searchOf query)⟩ := by
    rw [same, parse_formatted isPath rootedPath query]
  have plainKept : ∀ c ∈ (Location.pathOrRoot path).toList, Url.isPlain c = true :=
    Location.pathOrRoot_induction (fun kept => ∀ c ∈ kept, Url.isPlain c = true)
      (List.forall_mem_singleton.mpr rfl) plainPath
  have intactKept : Percent.Intact (Location.pathOrRoot path).toList :=
    Location.pathOrRoot_induction Percent.Intact (.kept (by decide) .nil) intact
  have agrees : Location.parse ("https://example.com" ++ url) = Location.parse url ↔
      Url.Path.IsResolved (Location.parse url).pathname.toList := by
    have origin : "https://example.com" = "https://" ++ "example.com" := by decide
    have plainHost : Url.Authority.IsPlainHost "example.com".toList := by decide +kernel
    rw [parsed, same, origin]
    exact Location.parse_https_iff plainHost rootedPath plainKept intactKept
      (isPlain_searchOf query)
  refine ⟨?_, agrees, ?_, ?_⟩
  · rw [parsed]
    exact Template.fill_eq_ok.mpr ⟨path, filled, rfl⟩
  · intro noDots
    rw [parsed]
    exact Location.pathOrRoot_induction Url.Path.IsResolved (by decide)
      (Template.isResolved_fillParts plain separates noDots filled)
  · intro isResolved
    have alike := agrees.mpr isResolved
    constructor
    · intro extent
      rw [matchUrl, matchUrl, alike]
    · intro newValues newQuery
      rw [alike]

/-- Values of dots and slashes that look like segments, and are none. -/
theorem parse_https_format_files :
    let r : Route := ⟨"/files/:name.:ext?", ⟨[.literal "/files", .param ⟨"name", false⟩ (some '/'),
      .param ⟨"ext", true⟩ (some '.')]⟩, false⟩
    let values := Params.ofPairs [("name", "a/../é"), ("ext", "...")]
    let query : Query := OrderedMap.ofList [("to", "/../#")]
    let url := "/files/a%2F..%2F%C3%A9....?to=%2F..%2F%23"
    compile "/files/:name.:ext?" false = .ok r ∧ r.template.IsPlain ∧
      r.format values (some query) = .ok url ∧ url.toList.head? = some '/' ∧
      Location.parse ("https://example.com" ++ url) = Location.parse url ∧
      r.matchUrl ("https://example.com" ++ url) .whole = r.matchUrl url .whole := by
  intro r values query url
  have compiled : compile "/files/:name.:ext?" false = .ok r := by decide +kernel
  have plain : r.template.IsPlain := by
    intro text member
    have same : text = "/files" := by simpa [r] using member
    rw [same]
    apply List.all_eq_true.mp
    decide +kernel
  have formatted : r.format values (some query) = .ok url := by decide +kernel
  have rooted : url.toList.head? = some '/' := by decide +kernel
  have noDots : ∀ key ∈ r.keys, values.nonempty? key.name ≠ some "." ∧
      values.nonempty? key.name ≠ some ".." := by
    decide +kernel
  have agrees := parse_https_format_iff compiled plain formatted rooted
  have isResolved := agrees.2.2.1 noDots
  exact ⟨compiled, plain, formatted, rooted, agrees.2.1.mpr isResolved,
    (agrees.2.2.2 isResolved).1 .whole⟩

/-- A value of two dots takes the segment in front of it away. -/
theorem parse_https_ne_of_dots :
    let r : Route := ⟨"/users/:id", ⟨[.literal "/users", .param ⟨"id", false⟩ (some '/')]⟩, false⟩
    compile "/users/:id" false = .ok r ∧ r.template.IsPlain ∧
      r.format (Params.ofPairs [("id", "..")]) none = .ok "/users/.." ∧
      "/users/..".toList.head? = some '/' ∧
      Location.parse ("https://example.com" ++ "/users/..") ≠ Location.parse "/users/.." ∧
      r.matchUrl ("https://example.com" ++ "/users/..") .whole = .noMatch ∧
      r.matchUrl "/users/.." .whole ≠ .noMatch := by
  refine ⟨by decide +kernel, ?_, by decide +kernel, by decide +kernel, by decide +kernel,
    by decide +kernel, by decide +kernel⟩
  intro text member
  have same : text = "/users" := by simpa using member
  rw [same]
  apply List.all_eq_true.mp
  decide +kernel

end Route
end PathTemplate
