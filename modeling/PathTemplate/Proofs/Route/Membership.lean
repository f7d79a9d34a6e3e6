import PathTemplate.Proofs.Matching.Delimitation
import PathTemplate.Proofs.Route.Matching

namespace PathTemplate

open Token (Captures)
open Percent (Intact)

/-!
# Which formatted URLs their own template matches

Formatting and matching read the same parts in two ways, and these do not always fit.  The encoder
keeps dots, and a parameter behind a dot takes none; and the matcher decides on values by their
positions in the path alone, so it may cut an encoded character in two.  A formatted URL is matched
exactly if the preferred choices can be decoded.

A value behind a dot that contains one is the only obstacle to there being any choices, and a place
where two parts meet without a delimiter is the only place where a cut can go wrong.
-/

namespace Params

/-- No value of a declared parameter needs to be escaped. -/
def IsUnreserved (values : Params) (keys : List Key) : Prop :=
  ∀ key ∈ keys, ∀ value, values.nonempty? key.name = some value →
    ∀ c ∈ value.toList, Percent.isUnreserved c = true

end Params

namespace Template

variable {t : Template} {values : Params} {path : List Char}

private theorem intact_separator {c : Char} (separates : isSeparator c = true) : Intact [c] := by
  refine .kept ?_ .nil
  rintro rfl
  exact absurd separates (by decide)

theorem intact_fillParts (percentFree : t.IsPercentFree)
    (separates : ∀ key c, .param key (some c) ∈ t.parts → isSeparator c = true)
    (filled : fillParts values t.parts = .ok path) : Intact path :=
  fillParts_induction _ .nil Intact.append
    (fun text member => .of_not_mem (percentFree text member))
    (fun key c member => intact_separator (separates key c member))
    (fun _ _ _ _ => .encode _) filled

theorem percent_not_mem_fillParts (percentFree : t.IsPercentFree)
    (separates : ∀ key c, .param key (some c) ∈ t.parts → isSeparator c = true)
    (unreserved : values.IsUnreserved t.keys)
    (filled : fillParts values t.parts = .ok path) : '%' ∉ path := by
  refine fillParts_induction (fun text => '%' ∉ text) List.not_mem_nil ?_ percentFree ?_ ?_ filled
  · intro first second one other
    rw [List.mem_append, not_or]
    exact ⟨one, other⟩
  · intro key c member percent
    have separatesHere := separates key c member
    rw [List.mem_singleton] at percent
    subst percent
    exact absurd separatesHere (by decide)
  · intro key declared value found
    exact Percent.percent_not_mem_encode (unreserved key declared value found)

end Template

namespace Route

/-- Every value that was captured can be decoded. -/
def Legible (choices : Captures) : Prop :=
  ∀ value, some value ∈ choices → ∃ text, Percent.decode? value = some text

private theorem legible_iff_decodes (choices : Captures) :
    Legible choices ↔ ∃ decoded, List.Forall₂ Decodes choices decoded := by
  constructor
  · intro legible
    induction choices with
    | nil => exact ⟨[], .nil⟩
    | cons choice choices inductionHypothesis =>
        rcases inductionHypothesis (fun value member => legible value (List.mem_cons_of_mem _ member))
          with ⟨decoded, all⟩
        cases choice with
        | none => exact ⟨none :: decoded, .cons rfl all⟩
        | some raw =>
            rcases legible raw List.mem_cons_self with ⟨text, read⟩
            exact ⟨some (String.ofList text) :: decoded, .cons ⟨text, read, rfl⟩ all⟩
  · rintro ⟨decoded, all⟩
    intro value member
    induction all with
    | nil => cases member
    | cons decodes _ inductionHypothesis =>
        rcases List.mem_cons.mp member with same | further
        · subst same
          rcases decodes with ⟨text, read, -⟩
          exact ⟨text, read⟩
        · exact inductionHypothesis further

/-- A location is matched if the preferred choices can be decoded. -/
theorem matchLocation_found_iff {r : Route} {l : Location} {extent : Extent} :
    (∃ m, r.matchLocation l extent = .found m) ↔
      ∃ choices, r.template.Prefers extent r.caseSensitive l.pathname choices ∧
        Legible choices := by
  constructor
  · rintro ⟨m, found⟩
    rcases matchLocation_eq_found.mp found with ⟨choices, values, prefers, bound, -⟩
    have sameLength : choices.length = r.keys.length := prefers.1.length_eq
    rcases (bind_eq_some_iff sameLength).mp bound with ⟨decoded, all, -⟩
    exact ⟨choices, prefers, (legible_iff_decodes choices).mpr ⟨decoded, all⟩⟩
  · rintro ⟨choices, prefers, legible⟩
    have sameLength : choices.length = r.keys.length := prefers.1.length_eq
    rcases (legible_iff_decodes choices).mp legible with ⟨decoded, all⟩
    exact ⟨_, matchLocation_eq_found.mpr
      ⟨choices, _, prefers, (bind_eq_some_iff sameLength).mpr ⟨decoded, all, rfl⟩, rfl⟩⟩

/-- However a filled path is read, its values can be decoded if every place where one can end is
recognizable, or if there are no escapes at all. -/
theorem legible_of_reads {t : Template} {values : Params} {path : List Char}
    (filled : Template.fillParts values t.parts = .ok path)
    (separates : ∀ key c, .param key (some c) ∈ t.parts → Template.isSeparator c = true)
    (percentFree : t.IsPercentFree) (apart : t.IsDelimited ∨ values.IsUnreserved t.keys)
    {caseSensitive : Bool} {choices : Captures}
    (reads : t.Reads .whole caseSensitive (Location.pathOrRoot path) choices) :
    Legible choices := by
  intro value member
  rw [Template.Reads] at reads
  rcases Location.toList_pathOrRoot path with ⟨rest, characters, leaves, -⟩
  rcases apart with delimited | unreserved
  · have intactRest : Intact rest := by
      rcases leaves with rfl | rfl
      · exact .nil
      · exact .kept (by decide) .nil
    have intact := (Template.intact_fillParts percentFree separates filled).append intactRest
    rw [← characters] at intact
    have leavesOpen : ∀ rest, Extent.whole.Leaves rest →
        Template.OpensWith (Percent.isDelimiter · = true) rest :=
      fun _ left => Template.opensWith_of_boundary (by decide) left.boundary
    exact (reads.intact_of_mem leavesOpen delimited separates intact value member).decodes
  · have absent : '%' ∉ path ++ rest := by
      rw [List.mem_append, not_or]
      refine ⟨Template.percent_not_mem_fillParts percentFree separates unreserved filled, ?_⟩
      rcases leaves with rfl | rfl <;> decide
    rw [← characters] at absent
    exact (Intact.of_not_mem (fun within => absent (reads.subset_of_mem value member within))).decodes

/-- A formatted URL is matched by its own template exactly if the preferred choices for its path can
be decoded.  There are choices at all if no value behind a dot contains one.  These can be decoded
if no literal contains a percent sign, and either a delimiter tells any two neighbouring parts apart
or no value needs to be escaped. -/
theorem matchUrl_format_iff_legible {text : String} {caseSensitive : Bool} {r : Route}
    (compiled : compile text caseSensitive = .ok r) (pathLike : r.template.IsPathLike)
    {values : Params} {url : String} (formatted : r.format values none = .ok url)
    (rooted : url.toList.head? = some '/') :
    ((∃ m, r.matchUrl url .whole = .found m) ↔
      ∃ choices, r.template.Prefers .whole r.caseSensitive url choices ∧ Legible choices) ∧
    (Template.Dotless values r.template.parts →
      ∃ choices, r.template.Prefers .whole r.caseSensitive url choices) ∧
    (Template.Dotless values r.template.parts → r.template.IsPercentFree →
      r.template.IsDelimited ∨ values.IsUnreserved r.keys →
        ∃ m, r.matchUrl url .whole = .found m) := by
  rcases format_eq_ok.mp formatted with ⟨path, filled, same⟩
  have bare : url = Location.pathOrRoot path := by
    rw [same]
    exact String.append_empty
  have separates := isSeparator_of_compile compiled
  have parsed : Location.parse url = ⟨url, none⟩ := by
    rw [bare] at rooted
    rw [same, parse_formatted (Template.isPath_fillParts pathLike separates filled) rooted none,
      ← same, bare]
    rfl
  have found : (∃ m, r.matchUrl url .whole = .found m) ↔
      ∃ choices, r.template.Prefers .whole r.caseSensitive url choices ∧ Legible choices := by
    rw [matchUrl, parsed]
    exact matchLocation_found_iff
  have chosen (dotless : Template.Dotless values r.template.parts) :
      ∃ choices, r.template.Prefers .whole r.caseSensitive url choices := by
    rw [bare]
    exact Template.exists_prefers (Template.reads_filled filled dotless r.caseSensitive)
  refine ⟨found, chosen, fun dotless percentFree apart => ?_⟩
  rcases chosen dotless with ⟨choices, prefers⟩
  refine found.mpr ⟨choices, prefers, ?_⟩
  rw [bare] at prefers
  exact legible_of_reads filled separates percentFree apart prefers.1

/-- A value glued to a literal, with escapes in it, and one behind a dot. -/
theorem matchUrl_format_glued :
    let r : Route := ⟨"/user-:id.:ext", ⟨[.literal "/user-", .param ⟨"id", false⟩ none,
      .param ⟨"ext", false⟩ (some '.')]⟩, false⟩
    let values := Params.ofPairs [("id", "é/b"), ("ext", "txt")]
    compile "/user-:id.:ext" false = .ok r ∧ r.template.IsPathLike ∧
      r.format values none = .ok "/user-%C3%A9%2Fb.txt" ∧
      "/user-%C3%A9%2Fb.txt".toList.head? = some '/' ∧
      ∃ m, r.matchUrl "/user-%C3%A9%2Fb.txt" .whole = .found m := by
  intro r values
  have compiled : compile "/user-:id.:ext" false = .ok r := by decide +kernel
  have formatted : r.format values none = .ok "/user-%C3%A9%2Fb.txt" := by decide +kernel
  have pathLike : r.template.IsPathLike := by
    intro text member
    have same : text = "/user-" := by simpa [r] using member
    rw [same]
    decide +kernel
  have percentFree : r.template.IsPercentFree := by
    intro text member
    have same : text = "/user-" := by simpa [r] using member
    rw [same]
    decide +kernel
  have dotless : Template.Dotless values r.template.parts := by
    intro key member value found
    have same : key = ⟨"ext", false⟩ := by simpa [r] using member
    have held : values.nonempty? "ext" = some "txt" := by decide +kernel
    rw [same, held] at found
    cases found
    decide +kernel
  have rooted : "/user-%C3%A9%2Fb.txt".toList.head? = some '/' := by decide +kernel
  exact ⟨compiled, pathLike, formatted, rooted,
    (matchUrl_format_iff_legible compiled pathLike formatted rooted).2.2 dotless percentFree
      (Or.inl (by decide +kernel))⟩

/-- The encoder keeps a dot that the parameter behind a dot does not take. -/
theorem noMatch_of_dotted_extension :
    let r : Route := ⟨"/f.:ext", ⟨[.literal "/f", .param ⟨"ext", false⟩ (some '.')]⟩, false⟩
    compile "/f.:ext" false = .ok r ∧ r.template.IsPathLike ∧
      r.format (Params.ofPairs [("ext", "a.b")]) none = .ok "/f.a.b" ∧
      "/f.a.b".toList.head? = some '/' ∧ r.matchUrl "/f.a.b" .whole = .noMatch := by
  refine ⟨by decide +kernel, ?_, by decide +kernel, by decide +kernel, by decide +kernel⟩
  intro text member
  have same : text = "/f" := by simpa using member
  rw [same]
  decide +kernel

example :
    let r : Route := ⟨"/:a:b", ⟨[.param ⟨"a", false⟩ (some '/'), .param ⟨"b", false⟩ none]⟩, false⟩
    r.format (Params.ofPairs [("a", "é"), ("b", "x")]) none = .ok "/%C3%A9x" ∧
      r.matchUrl "/%C3%A9x" .whole = .noMatch := by
  decide +kernel

end Route
end PathTemplate
