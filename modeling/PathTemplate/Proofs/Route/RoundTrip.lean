import PathTemplate.Proofs.Matching.Segments
import PathTemplate.Proofs.Route.Matching

namespace PathTemplate

/-!
# Formatting and matching are inverse on whole segments

For a template made of whole segments the URL that is built from values gives back these values.
The matcher is free to choose among all decompositions of the path, so this rests on the order of its
choices and not only on the existence of the right one; percent-encoding makes every value fill
exactly one segment, and decoding undoes it.
-/

namespace Part

/-- A part that is made of whole segments, and stays within the path of a URL. -/
def IsWhole : Part → Prop
  | literal text => text.toList.head? = some '/' ∧ Location.IsPath text.toList
  | param _ separator => separator = some '/'

instance : DecidablePred IsWhole
  | literal text =>
      inferInstanceAs (Decidable (text.toList.head? = some '/' ∧ Location.IsPath text.toList))
  | param _ separator => inferInstanceAs (Decidable (separator = some '/'))

end Part

namespace Template

/-- Every parameter owns a slash, and every literal begins with one. -/
def IsSegmented (t : Template) : Prop :=
  ∀ part ∈ t.parts, part.IsWhole

instance (t : Template) : Decidable t.IsSegmented :=
  inferInstanceAs (Decidable (∀ part ∈ t.parts, part.IsWhole))

namespace IsSegmented

variable {t : Template}

theorem startsSegment (segmented : t.IsSegmented) : ∀ part ∈ t.parts, part.StartsSegment := by
  intro part member
  cases part with
  | literal text => exact (segmented _ member).1
  | param key separator => exact segmented _ member

theorem isPathLike (segmented : t.IsSegmented) : t.IsPathLike :=
  fun _ member => (segmented _ member).2

theorem isSeparator (segmented : t.IsSegmented) (key : Key) (c : Char)
    (member : .param key (some c) ∈ t.parts) : Template.isSeparator c = true := by
  cases segmented _ member
  rfl

/-- Where no dot separates, no value needs to do without one. -/
theorem dotless (segmented : t.IsSegmented) (values : Params) : Dotless values t.parts := by
  intro key member
  cases segmented _ member

/-- What is filled in stays within the path of a URL. -/
theorem isPath (segmented : t.IsSegmented) {values : Params} {path : List Char}
    (filled : fillParts values t.parts = .ok path) : Location.IsPath path :=
  isPath_fillParts segmented.isPathLike segmented.isSeparator filled

theorem rooted (segmented : t.IsSegmented) {values : Params} {path : List Char}
    (filled : fillParts values t.parts = .ok path) :
    (Location.pathOrRoot path).toList.head? = some '/' := by
  have boundary := boundary_fillParts segmented.startsSegment filled .nil
  rw [List.append_nil] at boundary
  rcases boundary with rfl | ⟨more, rfl⟩
  · rfl
  · rw [Location.pathOrRoot, if_neg (List.cons_ne_nil _ _), String.toList_ofList]
    rfl

end IsSegmented

/-- Of all ways to read a path, the choices that the template was filled from come first.  More
than a slash may be left behind what was filled in if nothing is omitted. -/
theorem prefers_written {t : Template} (segmented : t.IsSegmented) {values : Params}
    {path rest : List Char} (filled : fillParts values t.parts = .ok path)
    (atEnd : values.OmitsOnlyAtEnd t.parts) {extent : Extent} (leaves : extent.Leaves rest)
    (slash : path ≠ [] → extent.Leaves ('/' :: rest))
    (short : (∃ part ∈ t.parts, values.Omits part) → rest.length ≤ 1) (caseSensitive : Bool) :
    t.Prefers extent caseSensitive (String.ofList (path ++ rest)) (values.written t.keys) := by
  constructor
  · rw [Reads, String.toList_ofList]
    exact decomposes_fillParts (CaseFold.agree_self caseSensitive) filled
      (segmented.dotless values) leaves slash
  · intro other reads
    rw [Reads, String.toList_ofList] at reads
    exact reads.eq_written_or_precedes (fun c => (CaseFold.agree_slash caseSensitive c).mp)
      (fun _ => Extent.Leaves.boundary) segmented.startsSegment filled atEnd leaves.boundary short

/-- The path a template of whole segments was filled to is captured as it was filled. -/
theorem captures?_filled {t : Template} (segmented : t.IsSegmented) {values : Params}
    {path : List Char} (filled : fillParts values t.parts = .ok path)
    (atEnd : values.OmitsOnlyAtEnd t.parts) (caseSensitive : Bool) :
    (Pattern.ofTemplate t .whole caseSensitive).captures? (Location.pathOrRoot path) =
      some (spellOut (values.written t.keys)) := by
  rcases Location.toList_pathOrRoot path with ⟨rest, characters, leaves, slash⟩
  have short : rest.length ≤ 1 := by
    rcases leaves with rfl | rfl <;> decide
  have prefers :=
    prefers_written segmented filled atEnd leaves slash (fun _ => short) caseSensitive
  rw [← characters, String.ofList_toList] at prefers
  rw [captures?_eq_some_iff]
  exact ⟨_, rfl, prefers⟩

end Template

namespace Route

/-- Decoding gives back the values that were written. -/
theorem bind_written (values : Params) (keys : List Key) :
    bind keys (Template.spellOut (values.written keys)) =
      some (keys.map (fun key => (key.name, values.nonempty? key.name))) := by
  induction keys with
  | nil => rfl
  | cons key keys inductionHypothesis =>
      rw [Params.written, List.map_cons, Template.spellOut, List.map_cons]
      cases found : values.nonempty? key.name with
      | none =>
          rw [Option.map_none, Option.map_none, bind]
          change (bind keys (Template.spellOut (values.written keys))).map _ = _
          rw [inductionHypothesis, List.map_cons, found]
          rfl
      | some value =>
          rw [Option.map_some, Option.map_some, bind, String.toList_ofList,
            Percent.decode?_encode]
          change (bind keys (Template.spellOut (values.written keys))).map _ = _
          rw [inductionHypothesis, List.map_cons, found, String.ofList_toList]
          rfl

/-- A URL that was formatted from values shows these values and the query. -/
theorem matchUrl_format {r : Route} (segmented : r.template.IsSegmented) {values : Params}
    {query : Option Query} (atEnd : values.OmitsOnlyAtEnd r.template.parts) {url : String}
    (formatted : r.format values query = .ok url) :
    r.matchUrl url .whole =
      .found ⟨OrderedMap.ofList (r.keys.map (fun key => (key.name, values.nonempty? key.name))),
        query.filter (fun q => !q.isEmpty)⟩ := by
  rcases format_eq_ok.mp formatted with ⟨path, filled, rfl⟩
  rw [matchUrl_formatted (segmented.isPath filled) (segmented.rooted filled), pattern,
    Template.captures?_filled segmented filled atEnd]
  dsimp only
  rw [keys, bind_written]

theorem entries_ofList_keys {text : String} {caseSensitive : Bool} {r : Route}
    (compiled : compile text caseSensitive = .ok r) {β : Type} (value : Key → β) :
    (OrderedMap.ofList (r.keys.map (fun key => (key.name, value key)))).entries =
      r.keys.map (fun key => (key.name, value key)) := by
  apply OrderedMap.entries_ofList
  rw [List.map_map]
  exact nodup_names compiled

/-- Formatting succeeds if all required values are there, and matching the URL gives back the values
and the query: every declared name in declaration order, with the value it was given or without one,
and the query unless it has no entries.  Values may be left out at the end only. -/
theorem matchUrl_format_round_trip {text : String} {caseSensitive : Bool} {r : Route}
    (compiled : compile text caseSensitive = .ok r) (segmented : r.template.IsSegmented)
    (values : Params) (query : Option Query) (supplies : values.Supplies r.keys)
    (atEnd : values.OmitsOnlyAtEnd r.template.parts) :
    ∃ url m, r.format values query = .ok url ∧ r.matchUrl url .whole = .found m ∧
      m.params.entries = r.keys.map (fun key => (key.name, values.nonempty? key.name)) ∧
      m.query = query.filter (fun q => !q.isEmpty) := by
  rcases Template.fillParts_of_supplies supplies with ⟨path, filled⟩
  have formatted : r.format values query = .ok _ := format_eq_ok.mpr ⟨path, filled, rfl⟩
  exact ⟨_, _, formatted, matchUrl_format segmented atEnd formatted,
    entries_ofList_keys compiled _, rfl⟩

/-- A value that needs escaping, an empty one and an undeclared one, with a query that has an empty
name. -/
theorem matchUrl_format_users :
    let r : Route := ⟨"/users/:id/:tab?", ⟨[.literal "/users", .param ⟨"id", false⟩ (some '/'),
      .param ⟨"tab", true⟩ (some '/')]⟩, false⟩
    let values := Params.ofPairs [("page", "2"), ("tab", ""), ("id", "a/b 50% é.?#")]
    let query : Query := OrderedMap.ofList [("q", "x&y=z"), ("", "+ü")]
    ∃ url m, compile "/users/:id/:tab?/" false = .ok r ∧
      r.format values (some query) = .ok url ∧ r.matchUrl url .whole = .found m ∧
      m.params.entries = [("id", some "a/b 50% é.?#"), ("tab", none)] ∧ m.query = some query := by
  intro r values query
  have compiled : compile "/users/:id/:tab?/" false = .ok r := by decide +kernel
  rcases matchUrl_format_round_trip compiled (by decide +kernel) values (some query)
    (by decide +kernel) (by decide +kernel) with ⟨url, m, formatted, found, params, queried⟩
  refine ⟨url, m, compiled, formatted, found, params.trans (by decide +kernel), queried⟩

end Route
end PathTemplate
