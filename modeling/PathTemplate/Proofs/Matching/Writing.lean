import PathTemplate.Pattern.Basic

namespace PathTemplate

/-!
# The written form of a pattern tells its steps

No step is written like the beginning of another one.  A character is written as itself or behind a
backslash, a value begins with a parenthesis that is neither, and an optional value goes on with the
question mark that no value has there.  So the steps can be told from the text one after the other,
whatever stands in the literals of a template: a parenthesis, a backslash, or the full text of a value.

How far a match must reach is written at the end, and its last character tells which it is.

How letters are compared is no part of the text.  Patterns with one text capture the same where they
compare letters in the same way.
-/

namespace Token

theorem backslash_isOperator : isOperator '\\' = true := by
  decide

theorem parenthesis_isOperator : isOperator '(' = true := by
  decide

/-! ## Single steps -/

theorem escape_ne_nil (c : Char) : escape c ≠ [] := by
  rw [escape]
  split <;> exact List.cons_ne_nil _ _

theorem escape_append_inj {c d : Char} {rest more : List Char}
    (same : escape c ++ rest = escape d ++ more) : c = d ∧ rest = more := by
  rw [escape, escape] at same
  by_cases operator : isOperator c = true
  · by_cases operatorToo : isOperator d = true
    · rw [if_pos operator, if_pos operatorToo] at same
      exact List.cons.inj (List.cons.inj same).2
    · rw [if_pos operator, if_neg operatorToo] at same
      rw [← (List.cons.inj same).1] at operatorToo
      exact absurd backslash_isOperator operatorToo
  · rw [if_neg operator] at same
    by_cases operatorToo : isOperator d = true
    · rw [if_pos operatorToo] at same
      rw [(List.cons.inj same).1] at operator
      exact absurd backslash_isOperator operator
    · rw [if_neg operatorToo] at same
      exact List.cons.inj same

/-- A parenthesis of literal text is behind a backslash. -/
theorem escape_append_ne (c : Char) (rest more : List Char) : escape c ++ rest ≠ '(' :: more := by
  intro same
  rw [escape] at same
  by_cases operator : isOperator c = true
  · rw [if_pos operator] at same
    exact absurd (List.cons.inj same).1 (by decide)
  · rw [if_neg operator] at same
    rw [(List.cons.inj same).1] at operator
    exact operator parenthesis_isOperator

/-- A group begins with a parenthesis that no question mark follows. -/
private theorem exists_group_eq (excludesDot : Bool) :
    ∃ within, group excludesDot = '(' :: '[' :: within := by
  cases excludesDot with
  | false => exact ⟨_, rfl⟩
  | true => exact ⟨_, rfl⟩

theorem group_append_inj {excludesDot other : Bool} {rest more : List Char}
    (same : group excludesDot ++ rest = group other ++ more) : excludesDot = other ∧ rest = more := by
  have fifth : ∀ (b : Bool) (behind : List Char),
      (group b ++ behind)[4]? = some (if b then '.' else ']') := by
    intro b behind
    cases b <;> rfl
  have equal : excludesDot = other := by
    have alike : some (if excludesDot then '.' else ']') = some (if other then '.' else ']') := by
      rw [← fifth excludesDot rest, same, fifth]
    revert alike
    cases excludesDot <;> cases other <;> decide
  subst equal
  exact ⟨rfl, List.append_cancel_left same⟩

theorem escape_append_ne_group (c : Char) (excludesDot : Bool) (rest more : List Char) :
    escape c ++ rest ≠ group excludesDot ++ more := by
  rcases exists_group_eq excludesDot with ⟨within, text⟩
  rw [text]
  exact escape_append_ne c rest _

/-- A separator, or its absence, is told by what stands in front of a group. -/
private theorem separator_append_inj {separator other : Option Char} {excludesDot excludesToo : Bool}
    {rest more : List Char}
    (same : separator.toList.flatMap escape ++ (group excludesDot ++ rest) =
      other.toList.flatMap escape ++ (group excludesToo ++ more)) :
    separator = other ∧ excludesDot = excludesToo ∧ rest = more := by
  cases separator with
  | none =>
      cases other with
      | none => exact ⟨rfl, group_append_inj same⟩
      | some d =>
          rw [Option.toList_some, List.flatMap_singleton] at same
          exact absurd same.symm (escape_append_ne_group d excludesDot _ rest)
  | some c =>
      rw [Option.toList_some, List.flatMap_singleton] at same
      cases other with
      | none => exact absurd same (escape_append_ne_group c excludesToo _ more)
      | some d =>
          rw [Option.toList_some, List.flatMap_singleton] at same
          rcases escape_append_inj same with ⟨rfl, behind⟩
          exact ⟨rfl, group_append_inj behind⟩

theorem optional_append (separator : Option Char) (excludesDot : Bool) (rest : List Char) :
    (optionalValue separator excludesDot).text ++ rest =
      '(' :: '?' :: ':' :: (separator.toList.flatMap escape ++ (group excludesDot ++
        (')' :: '?' :: rest))) := by
  simp [text]

theorem value_append_ne_optional (excludesDot excludesToo : Bool) (separator : Option Char)
    (rest more : List Char) :
    (value excludesDot).text ++ rest ≠ (optionalValue separator excludesToo).text ++ more := by
  intro same
  rcases exists_group_eq excludesDot with ⟨within, text⟩
  rw [optional_append, Token.text, text] at same
  exact absurd (List.cons.inj (List.cons.inj same).2).1 (by decide)

/-- The text of a step tells the step and where it ends. -/
theorem text_append_inj {step other : Token} {rest more : List Char}
    (same : step.text ++ rest = other.text ++ more) : step = other ∧ rest = more := by
  cases step with
  | char c =>
      cases other with
      | char d =>
          rcases escape_append_inj same with ⟨rfl, behind⟩
          exact ⟨rfl, behind⟩
      | value excludesDot => exact absurd same (escape_append_ne_group c excludesDot rest more)
      | optionalValue separator excludesDot =>
          rw [optional_append] at same
          exact absurd same (escape_append_ne c rest _)
  | value excludesDot =>
      cases other with
      | char d => exact absurd same.symm (escape_append_ne_group d excludesDot more rest)
      | value excludesToo =>
          rcases group_append_inj same with ⟨rfl, behind⟩
          exact ⟨rfl, behind⟩
      | optionalValue separator excludesToo =>
          exact absurd same (value_append_ne_optional excludesDot excludesToo separator rest more)
  | optionalValue separator excludesDot =>
      cases other with
      | char d =>
          rw [optional_append] at same
          exact absurd same.symm (escape_append_ne d more _)
      | value excludesToo =>
          exact absurd same.symm
            (value_append_ne_optional excludesToo excludesDot separator more rest)
      | optionalValue separatorToo excludesToo =>
          rw [optional_append, optional_append] at same
          have within := (List.cons.inj (List.cons.inj (List.cons.inj same).2).2).2
          rcases separator_append_inj within with ⟨rfl, rfl, behind⟩
          exact ⟨rfl, (List.cons.inj (List.cons.inj behind).2).2⟩

theorem text_ne_nil (step : Token) : step.text ≠ [] := by
  cases step with
  | char c => exact escape_ne_nil c
  | value excludesDot =>
      rcases exists_group_eq excludesDot with ⟨within, written⟩
      rw [text, written]
      exact List.cons_ne_nil _ _
  | optionalValue separator excludesDot =>
      rw [← List.append_nil (text _), optional_append]
      exact List.cons_ne_nil _ _

/-! ## Sequences of steps -/

/-- In front of one ending, a text tells all steps. -/
theorem flatMap_text_append_inj {steps others : List Token} {ending : List Char}
    (same : steps.flatMap text ++ ending = others.flatMap text ++ ending) : steps = others := by
  induction steps generalizing others with
  | nil =>
      cases others with
      | nil => rfl
      | cons other others =>
          have nothing := List.append_cancel_right same
          rw [List.flatMap_nil, List.flatMap_cons] at nothing
          exact absurd (List.append_eq_nil_iff.mp nothing.symm).1 (text_ne_nil other)
  | cons step steps inductionHypothesis =>
      cases others with
      | nil =>
          have nothing := List.append_cancel_right same
          rw [List.flatMap_nil, List.flatMap_cons] at nothing
          exact absurd (List.append_eq_nil_iff.mp nothing).1 (text_ne_nil step)
      | cons other others =>
          rw [List.flatMap_cons, List.flatMap_cons, List.append_assoc, List.append_assoc] at same
          rcases text_append_inj same with ⟨rfl, behind⟩
          exact congrArg (step :: ·) (inductionHypothesis behind)

/-! ## Capturing groups -/

/-- The number of parentheses in a regular expression that open a capturing group: those that are not
behind a backslash and not in front of a question mark. -/
def capturingGroups : List Char → Nat
  | [] => 0
  | '\\' :: _ :: rest => capturingGroups rest
  | '(' :: rest => (if rest.head? = some '?' then 0 else 1) + capturingGroups rest
  | _ :: rest => capturingGroups rest

/-- Whether a step captures a value. -/
def captures : Token → Bool
  | char _ => false
  | value _ => true
  | optionalValue _ _ => true

theorem capturingGroups_cons {c : Char} (plain : isOperator c = false) (rest : List Char) :
    capturingGroups (c :: rest) = capturingGroups rest := by
  have notBackslash : c ≠ '\\' := by
    rintro rfl
    exact absurd plain (by decide)
  have notParenthesis : c ≠ '(' := by
    rintro rfl
    exact absurd plain (by decide)
  rw [capturingGroups]
  · rintro d others rfl
    exact absurd rfl notBackslash
  · rintro rfl
    exact absurd rfl notParenthesis

theorem capturingGroups_escape_append (c : Char) (rest : List Char) :
    capturingGroups (escape c ++ rest) = capturingGroups rest := by
  rw [escape]
  split
  · rfl
  · rename_i plain
    exact capturingGroups_cons (eq_false_of_ne_true plain) rest

theorem capturingGroups_group_append (excludesDot : Bool) (rest : List Char) :
    capturingGroups (group excludesDot ++ rest) = 1 + capturingGroups rest := by
  cases excludesDot <;> rfl

/-- The text of a step opens a group if the step captures a value, and no other. -/
theorem capturingGroups_text_append (step : Token) (rest : List Char) :
    capturingGroups (step.text ++ rest) = (if step.captures then 1 else 0) + capturingGroups rest := by
  cases step with
  | char c => exact (capturingGroups_escape_append c rest).trans (Nat.zero_add _).symm
  | value excludesDot => exact capturingGroups_group_append excludesDot rest
  | optionalValue separator excludesDot =>
      have opened : ∀ others, capturingGroups ('(' :: '?' :: ':' :: others) =
          capturingGroups others := by
        intro others
        exact Nat.zero_add _
      have taken : capturingGroups (group excludesDot ++ ')' :: '?' :: rest) =
          1 + capturingGroups rest := capturingGroups_group_append excludesDot _
      rw [optional_append, opened]
      cases separator with
      | none => exact taken
      | some c =>
          rw [Option.toList_some, List.flatMap_singleton, capturingGroups_escape_append]
          exact taken

theorem capturingGroups_flatMap_text_append (steps : List Token) (rest : List Char) :
    capturingGroups (steps.flatMap text ++ rest) = steps.countP captures + capturingGroups rest := by
  induction steps with
  | nil => exact (Nat.zero_add _).symm
  | cons step steps inductionHypothesis =>
      calc
        capturingGroups ((step :: steps).flatMap text ++ rest) =
            capturingGroups (step.text ++ (steps.flatMap text ++ rest)) := by
          rw [List.flatMap_cons, List.append_assoc]
        _ = (if step.captures then 1 else 0) + (steps.countP captures + capturingGroups rest) := by
          rw [capturingGroups_text_append, inductionHypothesis]
        _ = (step :: steps).countP captures + capturingGroups rest := by
          rw [List.countP_cons]
          omega

theorem countP_captures_map_char (cs : List Char) : (cs.map char).countP captures = 0 := by
  rw [List.countP_eq_zero]
  intro step member
  rcases List.mem_map.mp member with ⟨c, -, rfl⟩
  exact Bool.false_ne_true

end Token

/-- A part captures one value if it declares a parameter. -/
theorem Part.countP_captures_tokens (part : Part) :
    part.tokens.countP Token.captures = part.key?.toList.length := by
  cases part with
  | literal text => exact Token.countP_captures_map_char text.toList
  | param key separator =>
      unfold tokens
      dsimp only
      split
      · rfl
      · rw [List.countP_append, Token.countP_captures_map_char]
        rfl

/-- The steps of a template capture one value for each declared parameter. -/
theorem Template.countP_captures_tokens (t : Template) :
    t.tokens.countP Token.captures = t.keys.length := by
  unfold Template.tokens Template.keys
  induction t.parts using tokensOf.induct with
  | case1 => rfl
  | case2 text => exact Token.countP_captures_map_char _
  | case3 part parts notLast inductionHypothesis =>
      rw [tokensOf.eq_3 part parts notLast, List.countP_append, Part.countP_captures_tokens,
        inductionHypothesis, List.filterMap_cons]
      cases part.key? with
      | none => exact Nat.zero_add _
      | some key => exact Nat.add_comm _ _

namespace Pattern

theorem getLast?_text (p : Pattern) : p.text.toList.getLast? = p.extent.text.getLast? := by
  rw [text, String.toList_ofList, List.getLast?_append]
  cases p.extent <;> rfl

/-- The last character of a pattern tells how far a match must reach. -/
theorem extent_eq_of_text_eq {p other : Pattern} (same : p.text = other.text) :
    p.extent = other.extent := by
  have last : p.extent.text.getLast? = other.extent.text.getLast? := by
    rw [← getLast?_text, ← getLast?_text, same]
  cases extent : p.extent with
  | whole =>
      cases extentToo : other.extent with
      | whole => rfl
      | leading =>
          rw [extent, extentToo] at last
          exact absurd last (by decide)
  | leading =>
      cases extentToo : other.extent with
      | whole =>
          rw [extent, extentToo] at last
          exact absurd last (by decide)
      | leading => rfl

theorem text_eq_iff {p other : Pattern} :
    p.text = other.text ↔ p.tokens = other.tokens ∧ p.extent = other.extent := by
  constructor
  · intro same
    have extents := extent_eq_of_text_eq same
    rw [text, text, extents, String.ofList_inj] at same
    exact ⟨Token.flatMap_text_append_inj (List.cons.inj same).2, extents⟩
  · rintro ⟨steps, extents⟩
    rw [text, text, steps, extents]

theorem capturingGroups_text (p : Pattern) :
    Token.capturingGroups p.text.toList = p.tokens.countP Token.captures := by
  have ending : Token.capturingGroups p.extent.text = 0 := by cases p.extent <;> rfl
  rw [text, String.toList_ofList, List.cons_append]
  change Token.capturingGroups (p.tokens.flatMap Token.text ++ p.extent.text) = _
  rw [Token.capturingGroups_flatMap_text_append, ending, Nat.add_zero]

end Pattern

namespace Template

/-- The text of a pattern tells the steps of its template, and how far a match must reach.  So
templates whose patterns have the same text capture the same in every path, where letters are
compared in the same way.  The text opens one capturing group for each declared parameter. -/
theorem text_tells_tokens (t other : Template) (extent extentToo : Extent)
    (caseSensitive caseSensitiveToo : Bool) :
    ((Pattern.ofTemplate t extent caseSensitive).text =
        (Pattern.ofTemplate other extentToo caseSensitiveToo).text ↔
      t.tokens = other.tokens ∧ extent = extentToo) ∧
    ((Pattern.ofTemplate t extent caseSensitive).text =
        (Pattern.ofTemplate other extent caseSensitive).text →
      ∀ path, (Pattern.ofTemplate t extent caseSensitive).captures? path =
        (Pattern.ofTemplate other extent caseSensitive).captures? path) ∧
    Token.capturingGroups (Pattern.ofTemplate t extent caseSensitive).text.toList =
      t.keys.length := by
  refine ⟨Pattern.text_eq_iff, ?_, ?_⟩
  · intro same path
    have steps : t.tokens = other.tokens := (Pattern.text_eq_iff.mp same).1
    rw [Pattern.ofTemplate, Pattern.ofTemplate, steps]
  · rw [Pattern.capturingGroups_text]
    exact countP_captures_tokens t

/-- A literal that spells out the group of a parameter, and a pair of templates whose parts differ
where their steps do not. -/
theorem text_tells_tokens_spelled :
    let real : Template := ⟨[.literal "/a", .param ⟨"id", false⟩ none]⟩
    let spelled : Template := ⟨[.literal "/a([^/]+?)"]⟩
    let slashed : Template := ⟨[.param ⟨"id", false⟩ (some '/'), .literal "/"]⟩
    let split : Template := ⟨[.literal "/", .param ⟨"key", false⟩ none, .literal "/"]⟩
    (∀ extent extentToo, (Pattern.ofTemplate real extent false).text ≠
      (Pattern.ofTemplate spelled extentToo false).text) ∧
    Token.capturingGroups (Pattern.ofTemplate spelled .whole false).text.toList = 0 ∧
    Token.capturingGroups (Pattern.ofTemplate real .whole false).text.toList = 1 ∧
    slashed ≠ split ∧
    (Pattern.ofTemplate slashed .leading true).text =
      (Pattern.ofTemplate split .leading true).text ∧
    ∀ path, (Pattern.ofTemplate slashed .leading true).captures? path =
      (Pattern.ofTemplate split .leading true).captures? path := by
  intro real spelled slashed split
  have different : real.tokens ≠ spelled.tokens := by decide
  have alike : slashed.tokens = split.tokens := by decide
  have same := (text_tells_tokens slashed split .leading .leading true true).1.mpr ⟨alike, rfl⟩
  refine ⟨?_, (text_tells_tokens spelled real .whole .whole false false).2.2,
    (text_tells_tokens real spelled .whole .whole false false).2.2, by decide, same,
    (text_tells_tokens slashed split .leading .leading true true).2.1 same⟩
  intro extent extentToo same
  exact different ((text_tells_tokens real spelled extent extentToo false false).1.mp same).1

end Template
end PathTemplate
