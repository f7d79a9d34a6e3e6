import PathTemplate.Pattern.Basic
import PathTemplate.Proofs.Route.Compilation
import PathTemplate.Proofs.Template.Writing

namespace PathTemplate

/-!
# Templates made again from the text they are kept under

A route keeps the text of its template with one slash less at the end, and no more than one.  So the
text it keeps need not be one that would be kept as it is: where two slashes were given, one is left.
Made again from that text, a route has the same parameters but another text.

Whether it matches alike is a different matter, since a pattern drops a slash at its end on its own.
Both routes have the pattern of the shorter text, unless a further slash is left there that only the
second one drops.
-/

/-! ## Steps at the end of a template -/

namespace Token

/-- Drop one slash from the end of a sequence of steps, if there is one. -/
def dropFinalSlash (steps : List Token) : List Token :=
  if steps.getLast? = some (.char '/') then steps.dropLast else steps

theorem dropFinalSlash_append {before steps : List Token} (nonempty : steps ≠ []) :
    dropFinalSlash (before ++ steps) = before ++ dropFinalSlash steps := by
  unfold dropFinalSlash
  rw [List.getLast?_append_of_ne_nil _ nonempty, List.dropLast_append_of_ne_nil nonempty]
  split <;> rfl

theorem dropFinalSlash_map_char (text : List Char) :
    dropFinalSlash (text.map .char) = (Template.dropFinalSlash text).map .char := by
  have slash : (text.map Token.char).getLast? = some (.char '/') ↔ text.getLast? = some '/' := by
    rw [List.getLast?_map]
    cases text.getLast? <;> simp
  unfold dropFinalSlash Template.dropFinalSlash
  rw [if_congr slash rfl rfl, ← List.map_dropLast]
  split <;> rfl

end Token

namespace Part

/-- A parameter ends with its value. -/
theorem getLast?_tokens_param (key : Key) (separator : Option Char) :
    ∃ step, (param key separator).tokens.getLast? = some step ∧ ∀ c, step ≠ .char c := by
  unfold tokens
  dsimp only
  split
  · exact ⟨_, rfl, nofun⟩
  · exact ⟨_, List.getLast?_concat, nofun⟩

theorem tokens_ne_nil {part : Part} (wellFormed : part.WellFormed) : part.tokens ≠ [] := by
  cases part with
  | literal text =>
      intro nothing
      exact wellFormed (String.toList_eq_nil_iff.mp (List.map_eq_nil_iff.mp nothing))
  | param key separator =>
      rcases getLast?_tokens_param key separator with ⟨step, last, -⟩
      intro nothing
      rw [nothing] at last
      cases last

end Part

namespace Template

open Lexeme

/-- The steps of a template are those of its parts, without a slash at the end. -/
theorem tokensOf_eq {parts : List Part} (wellFormed : ∀ part ∈ parts, part.WellFormed) :
    tokensOf parts = Token.dropFinalSlash (parts.flatMap Part.tokens) := by
  induction parts using tokensOf.induct with
  | case1 => rfl
  | case2 text =>
      rw [tokensOf, List.flatMap_singleton]
      exact (Token.dropFinalSlash_map_char text.toList).symm
  | case3 part parts notLast inductionHypothesis =>
      have each := List.forall_mem_cons.mp wellFormed
      rw [tokensOf.eq_3 part parts notLast, inductionHypothesis each.2, List.flatMap_cons]
      cases parts with
      | nil =>
          cases part with
          | literal text => exact absurd rfl (notLast text rfl)
          | param key separator =>
              rcases Part.getLast?_tokens_param key separator with ⟨step, last, noChar⟩
              rw [List.flatMap_nil, List.append_nil]
              unfold Token.dropFinalSlash
              rw [last, if_neg (fun same => noChar '/' (Option.some.inj same))]
              exact List.append_nil _
      | cons next parts =>
          have nonempty : (next :: parts).flatMap Part.tokens ≠ [] := by
            rw [List.flatMap_cons]
            exact List.append_ne_nil_of_left_ne_nil
              (Part.tokens_ne_nil (each.2 next List.mem_cons_self)) _
          exact (Token.dropFinalSlash_append nonempty).symm

private theorem flatMap_tokens_flush (held : List Char) :
    (flush held).flatMap Part.tokens = held.reverse.map .char := by
  cases held with
  | nil => rfl
  | cons c before =>
      change [Part.literal (String.ofList (c :: before).reverse)].flatMap Part.tokens = _
      rw [List.flatMap_singleton, Part.tokens, String.toList_ofList]

/-- A character at the end of a text is the last step. -/
theorem flatMap_tokens_char (first : List Lexeme) (c : Char) (escaped : Bool) :
    (assemble [] false (first ++ [.char c escaped])).flatMap Part.tokens =
      (assemble [] false first).flatMap Part.tokens ++ [.char c] := by
  rcases exists_assemble_append first [] false with ⟨parts, kept, last, split⟩
  have nothing := split []
  rw [List.append_nil] at nothing
  rw [split, nothing]
  simp only [assemble, List.flatMap_append, flatMap_tokens_flush, List.reverse_cons, List.map_append,
    List.map_cons, List.map_nil, List.append_assoc]

/-- A declaration at the end of a text leaves no character as the last step. -/
theorem getLast?_flatMap_tokens_key (first : List Lexeme) (key : Key) (c : Char) :
    ((assemble [] false (first ++ [.key key])).flatMap Part.tokens).getLast? ≠ some (.char c) := by
  rcases exists_assemble_append first [] false with ⟨parts, kept, last, split⟩
  rcases assemble_key kept last key with ⟨before, separator, -, -, declared⟩
  rcases Part.getLast?_tokens_param key separator with ⟨step, ends, noChar⟩
  rw [split, declared]
  simp only [assemble, flush, List.flatMap_append, List.flatMap_cons, List.flatMap_nil,
    List.append_nil, List.getLast?_append, ends, Option.some_or]
  exact fun same => noChar c (Option.some.inj same)

/-- The steps end with a slash exactly if the text does, whether that slash is escaped or not. -/
theorem getLast?_flatMap_tokens_iff {text : String} {t : Template} (accepted : read text = .ok t) :
    (t.parts.flatMap Part.tokens).getLast? = some (.char '/') ↔ text.toList.getLast? = some '/' := by
  rcases scans_of_read accepted with ⟨nonempty, lexemes, scans, -, parts⟩
  rcases List.eq_nil_or_concat text.toList with nothing | ⟨before, c, characters⟩
  · exact absurd (String.toList_eq_nil_iff.mp nothing) nonempty
  rw [List.concat_eq_append] at characters
  rw [characters] at scans
  rw [characters, parts, List.getLast?_concat]
  rcases scans.cut_last with
    ⟨first, rfl, -, -⟩ | ⟨first, _, rfl, -, -⟩ | ⟨first, key, rfl, other⟩
  · simp [flatMap_tokens_char]
  · simp [flatMap_tokens_char]
  · apply iff_of_false (getLast?_flatMap_tokens_key first key '/')
    rintro ⟨⟩
    exact absurd other (by decide)

theorem tokens_of_read {text : String} {t : Template} (accepted : read text = .ok t) :
    t.tokens = Token.dropFinalSlash (t.parts.flatMap Part.tokens) :=
  tokensOf_eq (wellFormed_of_read accepted).parts

/-- With a slash behind a text, the steps are those of the text in full. -/
theorem tokens_of_read_slash {before : List Char} {t shorter : Template}
    (accepted : read (String.ofList (before ++ ['/'])) = .ok t)
    (acceptedToo : read (String.ofList before) = .ok shorter) :
    t.tokens = shorter.parts.flatMap Part.tokens := by
  rcases scans_of_read accepted with ⟨-, lexemes, scans, -, parts⟩
  rcases scans_of_read acceptedToo with ⟨-, others, scansBefore, -, partsBefore⟩
  rw [String.toList_ofList] at scans scansBefore
  rcases scans.cut_last with ⟨first, rfl, -, same⟩ | ⟨first, front, -, rfl, same⟩ | ⟨_, _, -, other⟩
  · cases scansBefore.unique same
    calc
      t.tokens = Token.dropFinalSlash (t.parts.flatMap Part.tokens) :=
        tokens_of_read accepted
      _ = Token.dropFinalSlash ((assemble [] false others).flatMap Part.tokens ++ [.char '/']) := by
        rw [parts, flatMap_tokens_char]
      _ = (assemble [] false others).flatMap Part.tokens := by
        rw [Token.dropFinalSlash, List.getLast?_concat, if_pos rfl, List.dropLast_concat]
      _ = shorter.parts.flatMap Part.tokens := by
        rw [partsBefore]
  · exact absurd (endsEscaped same) (not_endsEscaped scansBefore)
  · exact absurd other (by decide)

/-! ## Texts as they are kept -/

/-- A text that ends with a slash only if it is the root. -/
def IsNormal (text : String) : Prop :=
  text.toList.getLast? = some '/' → text = "/"

/-- A text that ends with two slashes. -/
def EndsDoubled (text : String) : Prop :=
  ∃ before, text.toList = before ++ ['/', '/']

theorem endsDoubled_append_slash_iff {before : List Char} :
    EndsDoubled (String.ofList (before ++ ['/'])) ↔ before.getLast? = some '/' := by
  unfold EndsDoubled
  rw [String.toList_ofList, List.getLast?_eq_some_iff]
  constructor
  · rintro ⟨front, characters⟩
    have ends : before ++ ['/'] = (front ++ ['/']) ++ ['/'] := by
      rw [characters, List.append_assoc]
      rfl
    exact ⟨front, List.append_cancel_right ends⟩
  · rintro ⟨front, rfl⟩
    exact ⟨front, List.append_assoc _ _ _⟩

theorem IsNormal.not_endsDoubled {text : String} (isNormal : IsNormal text) :
    ¬ EndsDoubled text := by
  rintro ⟨before, characters⟩
  have slash : text.toList.getLast? = some '/' := by
    rw [characters, List.getLast?_append_of_ne_nil _ (List.cons_ne_nil _ _)]
    rfl
  rw [isNormal slash] at characters
  have lengths := congrArg List.length characters
  rw [List.length_append] at lengths
  exact absurd lengths (by simp)

theorem exists_of_not_isNormal {text : String} (notNormal : ¬ IsNormal text) :
    ∃ before, before ≠ [] ∧ text = String.ofList (before ++ ['/']) := by
  rcases Classical.not_imp.mp notNormal with ⟨slash, notRoot⟩
  rcases List.getLast?_eq_some_iff.mp slash with ⟨before, characters⟩
  have whole : text = String.ofList (before ++ ['/']) := by
    rw [← characters, String.ofList_toList]
  refine ⟨before, ?_, whole⟩
  rintro rfl
  exact notRoot whole

theorem normalize_eq_self_iff {text : String} : normalize text = text ↔ IsNormal text := by
  constructor
  · intro kept
    apply Classical.byContradiction
    intro notNormal
    rcases exists_of_not_isNormal notNormal with ⟨before, nonempty, rfl⟩
    rw [normalize_append_slash nonempty, String.ofList_inj] at kept
    exact List.cons_ne_nil _ _ (List.self_eq_append_right.mp kept)
  · intro isNormal
    by_cases slash : text.toList.getLast? = some '/'
    · rw [isNormal slash]
      rfl
    · exact normalize_of_getLast?_ne slash

/-- A slash is left at the end exactly if there were two, and not just these. -/
theorem isNormal_normalize_iff (text : String) :
    IsNormal (normalize text) ↔ ¬ (EndsDoubled text ∧ text ≠ "//") := by
  by_cases isNormal : IsNormal text
  · rw [normalize_eq_self_iff.mpr isNormal]
    exact iff_of_true isNormal (fun both => isNormal.not_endsDoubled both.1)
  · rcases exists_of_not_isNormal isNormal with ⟨before, nonempty, rfl⟩
    have root : String.ofList (before ++ ['/']) = "//" ↔ String.ofList before = "/" := by
      change _ = String.ofList (['/'] ++ ['/']) ↔ _ = String.ofList ['/']
      rw [String.ofList_inj, String.ofList_inj, List.append_cancel_right_eq]
    calc
      IsNormal (normalize (String.ofList (before ++ ['/']))) ↔ IsNormal (String.ofList before) := by
        rw [normalize_append_slash nonempty]
      _ ↔ (before.getLast? = some '/' → String.ofList before = "/") := by
        rw [IsNormal, String.toList_ofList]
      _ ↔ ¬ (before.getLast? = some '/' ∧ String.ofList before ≠ "/") :=
        not_and_not_right.symm
      _ ↔ ¬ (EndsDoubled (String.ofList (before ++ ['/'])) ∧
          String.ofList (before ++ ['/']) ≠ "//") := by
        rw [endsDoubled_append_slash_iff, Ne, Ne, root]

end Template

/-- One step more makes another pattern. -/
theorem Pattern.text_append_slash_ne (steps : List Token) (extent : Extent) (caseSensitive : Bool) :
    (Pattern.mk steps extent caseSensitive).text ≠
      (Pattern.mk (steps ++ [.char '/']) extent caseSensitive).text := by
  intro same
  have lengths := congrArg List.length (String.ofList_inj.mp same)
  simp only [List.length_cons, List.length_append, List.flatMap_append, List.flatMap_cons,
    List.flatMap_nil, List.append_nil] at lengths
  have one : (Token.text (.char '/')).length = 1 := by decide
  omega

namespace Route

open Template

variable {text : String} {caseSensitive : Bool}

/-- A text and the text without its final slash have patterns that are written alike, unless another
slash is left at the end. -/
theorem pattern_text_eq_iff {before : List Char} {t shorter : Template}
    (accepted : read (String.ofList (before ++ ['/'])) = .ok t)
    (acceptedToo : read (String.ofList before) = .ok shorter) (extent : Extent) :
    (Pattern.ofTemplate shorter extent caseSensitive).text =
        (Pattern.ofTemplate t extent caseSensitive).text ↔
      ¬ EndsDoubled (String.ofList (before ++ ['/'])) := by
  have slash := getLast?_flatMap_tokens_iff acceptedToo
  rw [String.toList_ofList] at slash
  rw [endsDoubled_append_slash_iff, ← slash, Pattern.ofTemplate, Pattern.ofTemplate,
    tokens_of_read acceptedToo, tokens_of_read_slash accepted acceptedToo]
  by_cases doubled : (shorter.parts.flatMap Part.tokens).getLast? = some (.char '/')
  · apply iff_of_false ?_ (not_not_intro doubled)
    rcases List.getLast?_eq_some_iff.mp doubled with ⟨steps, split⟩
    rw [Token.dropFinalSlash, if_pos doubled, split, List.dropLast_concat]
    exact Pattern.text_append_slash_ne steps extent caseSensitive
  · rw [Token.dropFinalSlash, if_neg doubled]
    exact iff_of_true rfl doubled

/-- A route keeps a text that ends with a slash, and is not the root, exactly if it was given two
slashes at the end.  Unless the slash that is left is escaped, a route can be made from the text
again.  It has the same parameters, and it is the same route exactly if no such slash is left; its
patterns are the same unless two slashes are left. -/
theorem compile_source {r : Route} (compiled : compile text caseSensitive = .ok r) :
    (IsNormal r.source ↔ ¬ (EndsDoubled text ∧ text ≠ "//")) ∧
    (¬ EndsEscaped r.source → ∃ again, compile r.source caseSensitive = .ok again ∧
      again.keys = r.keys ∧
      (again = r ↔ IsNormal r.source) ∧ (again.source = r.source ↔ IsNormal r.source) ∧
      ∀ extent, (again.pattern extent).text = (r.pattern extent).text ↔
        ¬ EndsDoubled r.source) := by
  have accepted := compile_eq_ok compiled
  have source : r.source = normalize text := by
    rcases compile_eq_ok_iff.mp compiled with ⟨t, -, rfl⟩
    rfl
  refine ⟨?_, ?_⟩
  · rw [source]
    exact isNormal_normalize_iff text
  · intro plain
    rcases read_normalize accepted.1 with ⟨-, other, ok, keys⟩ | ⟨escaped, -⟩
    · have same : (⟨normalize r.source, other, caseSensitive⟩ : Route) = r ↔
          IsNormal r.source := by
        constructor
        · intro unchanged
          exact normalize_eq_self_iff.mp (congrArg Route.source unchanged)
        · intro isNormal
          have kept := normalize_eq_self_iff.mpr isNormal
          rw [kept, accepted.1] at ok
          cases ok
          rw [kept, ← accepted.2]
      refine ⟨⟨normalize r.source, other, caseSensitive⟩, compile_eq_ok_iff.mpr ⟨other, ok, rfl⟩,
        keys, same, normalize_eq_self_iff, ?_⟩
      intro extent
      by_cases isNormal : IsNormal r.source
      · rw [same.mpr isNormal]
        exact iff_of_true rfl isNormal.not_endsDoubled
      · rcases exists_of_not_isNormal isNormal with ⟨before, nonempty, ends⟩
        have shorter := ok
        rw [ends, normalize_append_slash nonempty] at shorter
        have whole := accepted.1
        rw [ends] at whole
        rw [ends, pattern, pattern, accepted.2]
        exact pattern_text_eq_iff whole shorter extent
    · exact absurd escaped plain

/-- A template given with three slashes at its end keeps two, and made again from these it has
another pattern. -/
theorem compile_source_doubled :
    ∃ r again, compile "/:dir?///" false = .ok r ∧ ¬ IsNormal r.source ∧
      ¬ EndsEscaped r.source ∧ compile r.source false = .ok again ∧ again.keys = r.keys ∧
      (again.pattern .whole).text ≠ (r.pattern .whole).text := by
  have compiled : compile "/:dir?///" false =
      .ok ⟨"/:dir?//", ⟨[.param ⟨"dir", true⟩ (some '/'), .literal "//"]⟩, false⟩ := by
    decide +kernel
  have laws := compile_source compiled
  have plain : ¬ EndsEscaped "/:dir?//" := by
    rintro ⟨front, count, characters, -⟩
    have member : '\\' ∈ "/:dir?//".toList := by
      rw [characters]
      simp
    exact absurd member (by decide)
  have doubled : EndsDoubled "/:dir?//" := ⟨"/:dir?".toList, by decide⟩
  rcases laws.2 plain with ⟨again, compiledAgain, keys, -, -, patterns⟩
  refine ⟨_, again, compiled, ?_, plain, compiledAgain, keys, ?_⟩
  · intro isNormal
    exact laws.1.mp isNormal ⟨⟨"/:dir?/".toList, by decide⟩, by decide⟩
  · intro same
    exact (patterns .whole).mp same doubled

/-- Of two slashes one is left, and the text that is kept would not be kept again. -/
theorem not_isNormal_source :
    ∃ r again, compile "/a//" false = .ok r ∧ ¬ IsNormal r.source ∧
      compile r.source false = .ok again ∧ again.source ≠ r.source := by
  refine ⟨⟨"/a/", ⟨[.literal "/a/"]⟩, false⟩, ⟨"/a", ⟨[.literal "/a"]⟩, false⟩, ?_⟩
  refine ⟨by decide +kernel, ?_, by decide +kernel, by decide⟩
  intro isNormal
  exact absurd (isNormal (by decide)) (by decide)

end Route
end PathTemplate
