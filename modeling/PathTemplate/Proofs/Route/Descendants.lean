import PathTemplate.Proofs.Matching.Extents
import PathTemplate.Proofs.Route.RoundTrip

namespace PathTemplate

/-!
# Descendants of a formatted URL

A route that looks at leading segments reads the values of its own URL from every URL below it.  The
matcher prefers to give an optional parameter a value, so a parameter that was left out would take a
segment of the descendant.  If none was left out then each part stands where it was written: a value
can neither end before its segment does nor reach beyond it, and what comes below, be it the same
texts again or no text at all, is what a match of leading segments may leave.
-/

namespace Params

/-- Every parameter has a non-empty value, the optional ones as well. -/
def SuppliesAll (values : Params) (keys : List Key) : Prop :=
  ∀ key ∈ keys, ∃ value, values.get? key.name = some value ∧ value ≠ ""

instance (values : Params) (keys : List Key) : Decidable (values.SuppliesAll keys) :=
  decidable_of_iff (∀ key ∈ keys, (values.nonempty? key.name).isSome = true) (by
    refine forall₂_congr (fun key _ => ?_)
    rw [nonempty?, Option.isSome_iff_exists]
    refine exists_congr (fun value => ?_)
    rw [Option.filter_eq_some_iff, decide_eq_true_eq])

namespace SuppliesAll

variable {values : Params} {keys : List Key}

theorem nonempty?_eq (suppliesAll : values.SuppliesAll keys) {key : Key} (declared : key ∈ keys) :
    values.nonempty? key.name = values.get? key.name := by
  rcases suppliesAll key declared with ⟨value, found, nonempty⟩
  rw [nonempty?, found, Option.filter_some, if_pos (decide_eq_true nonempty)]

theorem supplies (suppliesAll : values.SuppliesAll keys) : values.Supplies keys := by
  intro key declared _
  rcases suppliesAll key declared with ⟨value, found, -⟩
  rw [suppliesAll.nonempty?_eq declared, found]
  rfl

/-- Where everything has a value nothing is omitted. -/
theorem not_omits {parts : List Part} (suppliesAll : values.SuppliesAll (parts.filterMap Part.key?))
    {part : Part} (member : part ∈ parts) : ¬ values.Omits part := by
  intro omits
  cases part with
  | literal text => exact omits
  | param key separator =>
      have declared : key ∈ parts.filterMap Part.key? := List.mem_filterMap.mpr ⟨_, member, rfl⟩
      rcases suppliesAll key declared with ⟨value, found, -⟩
      rw [← suppliesAll.nonempty?_eq declared, omits.2] at found
      cases found

end SuppliesAll
end Params

/-- What stands below a path as it is kept is separated by a slash from what was filled in, be that
empty. -/
theorem Location.exists_eq_append_below (path : List Char) (more : String) :
    ∃ rest, Extent.leading.Leaves rest ∧
      pathOrRoot path ++ "/" ++ more = String.ofList (path ++ rest) := by
  rcases toList_pathOrRoot path with ⟨rest, characters, leaves, -⟩
  refine ⟨rest ++ '/' :: more.toList, ?_, ?_⟩
  · exact Extent.leaves_leading_append leaves.boundary (.cons _)
  · apply String.toList_inj.mp
    simp [characters]

namespace Route

variable {text : String} {caseSensitive : Bool} {r : Route} {values : Params}

/-- A URL below the formatted one is read as the path it is. -/
theorem parse_below (segmented : r.template.IsSegmented) {path : List Char}
    (filled : Template.fillParts values r.template.parts = .ok path) {more : String}
    (isPath : Location.IsPath more.toList) :
    Location.parse (Location.pathOrRoot path ++ "/" ++ more) =
      .ofPath (Location.pathOrRoot path ++ "/" ++ more) := by
  apply Location.parse_path
  · have slash : Location.IsPath "/".toList := by decide
    rw [String.toList_append, String.toList_append]
    exact ((isPath_pathOrRoot (segmented.isPath filled)).append slash).append isPath
  · rw [String.append_assoc, Location.head?_pathOrRoot_append]
    exact segmented.rooted filled

/-- Leading segments of a URL below the formatted one match with the values that were filled in. -/
theorem matchUrl_below (segmented : r.template.IsSegmented)
    (suppliesAll : values.SuppliesAll r.keys) {path : List Char}
    (filled : Template.fillParts values r.template.parts = .ok path) {more : String}
    (isPath : Location.IsPath more.toList) :
    r.matchUrl (Location.pathOrRoot path ++ "/" ++ more) .leading =
      .found ⟨OrderedMap.ofList (r.keys.map (fun key => (key.name, values.get? key.name))),
        none⟩ := by
  rcases Location.exists_eq_append_below path more with ⟨rest, leaves, characters⟩
  have slash : path ≠ [] → Extent.leading.Leaves ('/' :: rest) := fun _ => .cons rest
  have nothingOmitted : ∀ part ∈ r.template.parts, ¬ values.Omits part :=
    fun part => suppliesAll.not_omits
  have short : (∃ part ∈ r.template.parts, values.Omits part) → rest.length ≤ 1 := by
    intro omitted
    rcases omitted with ⟨part, member, omits⟩
    exact absurd omits (nothingOmitted part member)
  have prefers : r.template.Prefers .leading r.caseSensitive (String.ofList (path ++ rest))
      (values.written r.keys) :=
    Template.prefers_written segmented filled (Params.omitsOnlyAtEnd_of_forall_not nothingOmitted)
      leaves slash short r.caseSensitive
  rw [← characters] at prefers
  have sameValues : r.keys.map (fun key => (key.name, values.nonempty? key.name)) =
      r.keys.map (fun key => (key.name, values.get? key.name)) := by
    apply List.map_congr_left
    intro key declared
    rw [suppliesAll.nonempty?_eq declared]
  have bound := bind_written values r.keys
  rw [sameValues] at bound
  rw [matchUrl, parse_below segmented filled isPath, matchLocation_eq_found]
  exact ⟨_, _, prefers, bound, rfl⟩

/-- Formatting succeeds if every parameter has a value, and every URL below the formatted one is
matched by its leading segments with just these values: every declared name in declaration order,
whatever text comes below.  No query is found. -/
theorem matchUrl_descendant (compiled : compile text caseSensitive = .ok r)
    (segmented : r.template.IsSegmented) (suppliesAll : values.SuppliesAll r.keys) {more : String}
    (isPath : Location.IsPath more.toList) :
    ∃ url m, r.format values none = .ok url ∧
      r.matchUrl (url ++ "/" ++ more) .leading = .found m ∧
      m.params.entries = r.keys.map (fun key => (key.name, values.get? key.name)) ∧
      m.query = none := by
  rcases Template.fillParts_of_supplies suppliesAll.supplies with ⟨path, filled⟩
  have formatted : r.format values none = .ok (Location.pathOrRoot path) := by
    rw [format_eq_ok]
    exact ⟨path, filled, String.append_empty.symm⟩
  exact ⟨_, _, formatted, matchUrl_below segmented suppliesAll filled isPath,
    entries_ofList_keys compiled _, rfl⟩

/-- Optional parameters in front of a literal and of a required one.  Below the URL stands its own
path once more, behind a second slash and with other parameters. -/
theorem matchUrl_descendant_docs :
    let r : Route := ⟨"/docs/:lang?/v1/:page?/:id", ⟨[.literal "/docs",
      .param ⟨"lang", true⟩ (some '/'), .literal "/v1", .param ⟨"page", true⟩ (some '/'),
      .param ⟨"id", false⟩ (some '/')]⟩, false⟩
    let values := Params.ofPairs [("id", "v1"), ("page", "docs/é?"), ("lang", "v1"), ("x", "y")]
    let more := "/docs/en/v1/2/3/"
    compile "/docs/:lang?/v1/:page?/:id" false = .ok r ∧ r.template.IsSegmented ∧
      values.SuppliesAll r.keys ∧ Location.IsPath more.toList ∧
      ∃ url m, r.format values none = .ok url ∧ r.matchUrl (url ++ "/" ++ more) .leading = .found m ∧
        m.params.entries = [("lang", some "v1"), ("page", some "docs/é?"), ("id", some "v1")] ∧
        m.query = none := by
  intro r values more
  have compiled : compile "/docs/:lang?/v1/:page?/:id" false = .ok r := by decide +kernel
  have segmented : r.template.IsSegmented := by decide +kernel
  have suppliesAll : values.SuppliesAll r.keys := by decide +kernel
  have isPath : Location.IsPath more.toList := by decide +kernel
  rcases matchUrl_descendant compiled segmented suppliesAll isPath with
    ⟨url, m, formatted, found, params, noQuery⟩
  exact ⟨compiled, segmented, suppliesAll, isPath, url, m, formatted, found,
    params.trans (by decide +kernel), noQuery⟩

end Route
end PathTemplate
