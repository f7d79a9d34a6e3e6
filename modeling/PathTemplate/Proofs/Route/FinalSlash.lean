import PathTemplate.Proofs.Matching.Extents
import PathTemplate.Proofs.Route.Formatting

namespace PathTemplate

open Token

/-!
# A slash at the end of a path

A slash behind a path is never accounted for by the parts of a template, provided that no literal
ends with one: a value contains none, and a separator has a value behind it.  So it belongs to the
rest that is left, where both extents put up with it.  The decompositions of a path with and without
the slash have the same choices, and therefore the same one is preferred.

Only one slash is passed over, so the path in front of it must not end with a slash itself.  A
literal that does would need more care: a slash at its end is optional where the literal is the last
part of all, and nowhere else.
-/

/-- A text that does not end with a slash. -/
def NoFinalSlash (text : List Char) : Prop :=
  text.getLast? ≠ some '/'

instance (text : List Char) : Decidable (NoFinalSlash text) :=
  inferInstanceAs (Decidable (_ ≠ _))

namespace NoFinalSlash

theorem append {first second : List Char} (one : NoFinalSlash first) (other : NoFinalSlash second) :
    NoFinalSlash (first ++ second) := by
  unfold NoFinalSlash
  rw [List.getLast?_append]
  cases last : second.getLast? with
  | none => exact one
  | some c =>
      rw [Option.some_or, ← last]
      exact other

/-- What stands in front of a text that is not empty does not matter. -/
theorem append_of_ne_nil {before text : List Char} (nonempty : text ≠ [])
    (noSlash : NoFinalSlash text) : NoFinalSlash (before ++ text) := by
  unfold NoFinalSlash
  rw [List.getLast?_append_of_ne_nil _ nonempty]
  exact noSlash

theorem of_append {before text : List Char} (noSlash : NoFinalSlash (before ++ text)) :
    NoFinalSlash text := by
  intro slash
  apply noSlash
  rw [List.getLast?_append, slash, Option.some_or]

theorem of_not_mem {text : List Char} (absent : '/' ∉ text) : NoFinalSlash text := by
  intro slash
  exact absent (List.mem_of_getLast? slash)

theorem not_append_slash {text : List Char} : ¬ NoFinalSlash (text ++ ['/']) := by
  intro noSlash
  exact noSlash List.getLast?_concat

/-- A text is spelled without a final slash if it has none, since a slash agrees with slashes
only. -/
theorem of_spells {caseSensitive : Bool} {text piece : List Char}
    (spelled : Spells (CaseFold.agree caseSensitive) text piece) (noSlash : NoFinalSlash text) :
    NoFinalSlash piece := by
  induction spelled with
  | nil => exact nofun
  | @cons c d text piece agrees later inductionHypothesis =>
      cases later with
      | nil =>
          intro slash
          have same : d = '/' := Option.some.inj slash
          rw [same, CaseFold.agree_comm, CaseFold.agree_slash] at agrees
          exact noSlash (congrArg some agrees)
      | cons _ _ =>
          unfold NoFinalSlash at noSlash ⊢
          rw [List.getLast?_cons_cons] at noSlash ⊢
          exact inductionHypothesis noSlash

end NoFinalSlash

namespace Extent

/-- A slash may be added to what is left, unless there is one at its end. -/
theorem leaves_append_slash_iff {extent : Extent} {rest : List Char}
    (noSlash : NoFinalSlash rest) : extent.Leaves (rest ++ ['/']) ↔ extent.Leaves rest := by
  cases extent with
  | whole =>
      have notSlash : rest ≠ ['/'] := by
        intro slash
        rw [slash] at noSlash
        exact noSlash rfl
      simp only [Leaves, List.append_eq_nil_iff, List.cons_ne_nil, and_false, false_or,
        List.append_left_eq_self, notSlash, or_false]
  | leading =>
      cases rest with
      | nil => exact iff_of_true (.cons []) .nil
      | cons c more =>
          simp only [Leaves, Boundary, List.cons_append, List.cons_ne_nil, false_or,
            List.cons.injEq]
          constructor
          · intro begins
            rcases begins with ⟨_, slash, _⟩
            exact ⟨more, slash, rfl⟩
          · intro begins
            rcases begins with ⟨_, slash, _⟩
            exact ⟨more ++ ['/'], slash, rfl⟩

end Extent

namespace Template

/-- No literal ends with a slash where it stands in a path. -/
def NoFinalSlashes : List Part → Prop
  | [] => True
  | .literal text :: parts => NoFinalSlash (standing text parts) ∧ NoFinalSlashes parts
  | .param _ _ :: parts => NoFinalSlashes parts

variable {caseSensitive : Bool}

theorem Decomposes.noFinalSlash {parts : List Part} {path : List Char} {choices : Captures}
    (decomposes : Decomposes (CaseFold.agree caseSensitive) (· = []) parts path choices)
    (plain : NoFinalSlashes parts) : NoFinalSlash path := by
  induction decomposes with
  | done nothing =>
      subst nothing
      exact nofun
  | @literal text parts piece path choices more spelled _ inductionHypothesis =>
      rw [NoFinalSlashes, standing_of_ne_nil more] at plain
      exact .append (.of_spells spelled plain.1) (inductionHypothesis plain.2)
  | lastLiteral spelled nothing =>
      subst nothing
      rw [List.append_nil]
      exact .of_spells spelled plain.1
  | taken _ isValue _ inductionHypothesis =>
      apply NoFinalSlash.append_of_ne_nil (List.append_ne_nil_of_left_ne_nil isValue.nonempty _)
      exact .append (.of_not_mem isValue.noSlash) (inductionHypothesis plain)
  | omitted _ _ inductionHypothesis => exact inductionHypothesis plain

/-- The choices for a path are those for the path with a slash behind it. -/
theorem decomposes_append_slash_iff {extent : Extent} {parts : List Part}
    (plain : NoFinalSlashes parts) {path : List Char} (noSlash : NoFinalSlash path)
    {choices : Captures} :
    Decomposes (CaseFold.agree caseSensitive) extent.Leaves parts (path ++ ['/']) choices ↔
      Decomposes (CaseFold.agree caseSensitive) extent.Leaves parts path choices := by
  rw [decomposes_iff_cut, decomposes_iff_cut]
  constructor
  · intro cut
    rcases cut with ⟨before, after, split, leaves, decomposes⟩
    have noSlashBefore := decomposes.noFinalSlash plain
    -- The parts account for a text without a slash at its end, so the slash is behind it.
    rcases List.eq_nil_or_concat after with rfl | ⟨more, last, rfl⟩
    · rw [List.append_nil] at split
      rw [← split] at noSlashBefore
      exact absurd noSlashBefore NoFinalSlash.not_append_slash
    · rw [List.concat_eq_append, ← List.append_assoc] at split
      have aligned := List.append_inj' split rfl
      rw [aligned.1] at noSlash
      have last : last = '/' := (List.cons.inj aligned.2).1.symm
      rw [List.concat_eq_append, last, Extent.leaves_append_slash_iff noSlash.of_append] at leaves
      exact ⟨before, more, aligned.1, leaves, decomposes⟩
  · intro cut
    rcases cut with ⟨before, after, rfl, leaves, decomposes⟩
    refine ⟨before, after ++ ['/'], List.append_assoc _ _ _, ?_, decomposes⟩
    rw [Extent.leaves_append_slash_iff noSlash.of_append]
    exact leaves

/-- Literals without a slash at their end stand without one. -/
theorem noFinalSlashes_of_literals {parts : List Part}
    (literals : ∀ text, .literal text ∈ parts → NoFinalSlash text.toList) :
    NoFinalSlashes parts := by
  induction parts with
  | nil => trivial
  | cons part parts inductionHypothesis =>
      have later := inductionHypothesis
        (fun text member => literals text (List.mem_cons_of_mem _ member))
      cases part with
      | param key separator => exact later
      | literal text =>
          have here := literals text List.mem_cons_self
          refine ⟨?_, later⟩
          cases parts with
          | nil =>
              rw [standing, dropFinalSlash, if_neg here]
              exact here
          | cons _ _ => exact here

end Template

namespace Route

/-- A path and the same path with a slash behind it are matched alike, in both extents: with the
same values and the same query, or not at all.  The literals of the route do not end with a slash,
unless the slash is all there is. -/
theorem matchLocation_append_slash {text : String} {caseSensitive : Bool} {r : Route}
    (compiled : compile text caseSensitive = .ok r)
    (plain : r.source = "/" ∨
      ∀ literal, .literal literal ∈ r.template.parts → NoFinalSlash literal.toList)
    (path : String) (noSlash : NoFinalSlash path.toList) (search : Option String)
    (extent : Extent) :
    r.matchLocation ⟨path ++ "/", search⟩ extent = r.matchLocation ⟨path, search⟩ extent := by
  have endsPlain : Template.NoFinalSlashes r.template.parts := by
    rcases plain with root | literals
    · have readRoot : Template.read "/" = .ok ⟨[.literal "/"]⟩ := by decide +kernel
      have isRead := (compile_eq_ok compiled).1
      rw [root] at isRead
      have template : r.template = ⟨[.literal "/"]⟩ := Except.ok.inj (isRead.symm.trans readRoot)
      rw [template]
      exact ⟨by decide, trivial⟩
    · exact Template.noFinalSlashes_of_literals literals
  have sameCaptures : (r.pattern extent).captures? (path ++ "/") =
      (r.pattern extent).captures? path := by
    apply Template.captures?_congr
    intro choices
    unfold Template.Reads
    rw [String.toList_append]
    exact Template.decomposes_append_slash_iff endsPlain noSlash
  simp only [matchLocation, sameCaptures, Location.search]

/-- Optional segments, one of them behind a dot, in a path of leading segments, and the root. -/
theorem matchLocation_append_slash_files :
    let r : Route := ⟨"/files/:name.:ext?/:tab?", ⟨[.literal "/files",
      .param ⟨"name", false⟩ (some '/'), .param ⟨"ext", true⟩ (some '.'),
      .param ⟨"tab", true⟩ (some '/')]⟩, false⟩
    let root : Route := ⟨"/", ⟨[.literal "/"]⟩, true⟩
    let m : Match := ⟨OrderedMap.ofList [("name", some "a b"), ("ext", some "gz"), ("tab", none)],
      some (OrderedMap.ofList [("q", "1")])⟩
    compile "/files/:name.:ext?/:tab?/" false = .ok r ∧ compile "/" true = .ok root ∧
      r.matchLocation ⟨"/FILES/a%20b.gz", some "q=1"⟩ .whole = .found m ∧
      r.matchLocation ⟨"/FILES/a%20b.gz" ++ "/", some "q=1"⟩ .whole = .found m ∧
      root.matchLocation ⟨"" ++ "/", none⟩ .leading = .found ⟨OrderedMap.ofList [], none⟩ := by
  intro r root m
  have compiled : compile "/files/:name.:ext?/:tab?/" false = .ok r := by decide +kernel
  have rootCompiled : compile "/" true = .ok root := by decide +kernel
  have found : r.matchLocation ⟨"/FILES/a%20b.gz", some "q=1"⟩ .whole = .found m := by
    decide +kernel
  have plain : ∀ literal, .literal literal ∈ r.template.parts → NoFinalSlash literal.toList := by
    simp [r]
    decide
  have slashed := matchLocation_append_slash compiled (Or.inr plain) "/FILES/a%20b.gz" (by decide)
    (some "q=1") .whole
  have rootSlashed :=
    matchLocation_append_slash rootCompiled (Or.inl rfl) "" (by decide) none .leading
  exact ⟨compiled, rootCompiled, found, slashed.trans found, rootSlashed.trans (by decide +kernel)⟩

end Route
end PathTemplate
