import PathTemplate.Proofs.Route.Contents

namespace PathTemplate

open Token

/-!
# Formatting what was matched

Formatting a match writes the parts of the template one after the other: literals as they stand
there, and the values encoded.  The matched path is made of the same parts, and it shows the same
values wherever its captures are written as encoding writes them.  So it can only differ in the case
of literal characters, and by a slash at the end: the one that a last literal gives up, the one that
may be left of the path, and the one that stands for an empty path.  At most one of these is on one
side alone.

A capture may be written in other ways, with small hexadecimal digits or with escapes of characters
that need none.  It is then formatted anew, and nothing is said about such a path here.
-/

namespace Percent

/-- Encoded text that is written as encoding writes it. -/
def IsCanonical (raw : List Char) : Prop :=
  (decode? raw).map encode = some raw

instance (raw : List Char) : Decidable (IsCanonical raw) :=
  inferInstanceAs (Decidable (_ = _))

end Percent

/-! ## Two texts that differ by a slash -/

/-- Two texts are the same but for one slash at the end of one of them, if at all. -/
def DiffersBySlash (first second : List Char) : Prop :=
  first = second ∨ first = second ++ ['/'] ∨ first ++ ['/'] = second

namespace DiffersBySlash

theorem append_left (before : List Char) {first second : List Char}
    (differs : DiffersBySlash first second) :
    DiffersBySlash (before ++ first) (before ++ second) := by
  unfold DiffersBySlash
  rw [List.append_assoc, List.append_assoc]
  rcases differs with same | longer | shorter
  · exact Or.inl (congrArg _ same)
  · exact Or.inr (Or.inl (congrArg _ longer))
  · exact Or.inr (Or.inr (congrArg _ shorter))

/-- What may be left of a whole path is nothing, or a slash. -/
theorem of_leaves {first second : List Char} (one : Extent.whole.Leaves first)
    (other : Extent.whole.Leaves second) : DiffersBySlash first second := by
  rcases one with rfl | rfl
  · rcases other with rfl | rfl
    · exact Or.inl rfl
    · exact Or.inr (Or.inr rfl)
  · rcases other with rfl | rfl
    · exact Or.inr (Or.inl rfl)
    · exact Or.inl rfl

/-- The root is as close to a text as the empty path is. -/
theorem pathOrRoot {path other : List Char} (differs : DiffersBySlash path other) :
    DiffersBySlash (Location.pathOrRoot path).toList other := by
  unfold Location.pathOrRoot
  split
  · rename_i empty
    subst empty
    have root : Extent.whole.Leaves "/".toList := Or.inr rfl
    apply of_leaves root
    rcases differs with same | longer | shorter
    · exact Or.inl same.symm
    · exact absurd longer.symm (List.append_ne_nil_of_right_ne_nil _ (List.cons_ne_nil _ _))
    · exact Or.inr shorter.symm
  · rw [String.toList_ofList]
    exact differs

end DiffersBySlash

namespace Template

variable {agrees : Char → Char → Bool} {caseSensitive : Bool}

/-! ## Paths with respelled literals -/

/-- A path that was decomposed into parts, and beside it the same path in which every literal is
spelled as it stands in the template.  All other characters are the same in both. -/
inductive Respells (agrees : Char → Char → Bool) :
    List Part → Captures → List Char → List Char → Prop where
  /-- What is left behind the parts stays as it is. -/
  | rest (left : List Char) : Respells agrees [] [] left left
  /-- A piece of the path that agrees with a literal is replaced by it. -/
  | literal {text : String} {parts : List Part} {choices : Captures}
      {piece path respelled : List Char} (spelled : Spells agrees (standing text parts) piece)
      (later : Respells agrees parts choices path respelled) :
      Respells agrees (.literal text :: parts) choices (piece ++ path)
        (standing text parts ++ respelled)
  /-- A value stays as it is, and so does its separator. -/
  | taken {key : Key} {separator : Option Char} {parts : List Part} {value : List Char}
      {choices : Captures} {path respelled : List Char}
      (later : Respells agrees parts choices path respelled) :
      Respells agrees (.param key separator :: parts) (some value :: choices)
        (separator.toList ++ (value ++ path)) (separator.toList ++ (value ++ respelled))
  /-- An omitted parameter has no place in the path. -/
  | omitted {key : Key} {separator : Option Char} {parts : List Part} {choices : Captures}
      {path respelled : List Char} (later : Respells agrees parts choices path respelled) :
      Respells agrees (.param key separator :: parts) (none :: choices) path respelled

/-- Where case counts, there is nothing to respell. -/
theorem Respells.eq_of_caseSensitive {parts : List Part} {choices : Captures}
    {path respelled : List Char}
    (respells : Respells (CaseFold.agree true) parts choices path respelled) :
    respelled = path := by
  induction respells with
  | rest left => rfl
  | literal spelled _ inductionHypothesis =>
      have exact : ∀ c d, CaseFold.agree true c d = true → c = d := by
        intro c d agrees
        exact beq_iff_eq.mp agrees
      have same := List.Forall₂.imp exact spelled
      rw [List.forall₂_eq_eq_eq] at same
      rw [inductionHypothesis, same]
  | taken _ inductionHypothesis => rw [inductionHypothesis]
  | omitted _ inductionHypothesis => exact inductionHypothesis

/-- A separator is spelled by itself alone. -/
private theorem eq_of_spells_separator {separator : Option Char} {lead : List Char}
    (separates : ∀ c, separator = some c → isSeparator c = true)
    (spelled : Spells (CaseFold.agree caseSensitive) separator.toList lead) :
    lead = separator.toList := by
  cases separator with
  | none =>
      cases spelled
      rfl
  | some c =>
      have slashOrDot := eq_slash_or_dot (separates c rfl)
      cases spelled with
      | @cons _ d _ _ agrees last =>
          cases last
          have same : d = c := by
            rcases slashOrDot with rfl | rfl
            · exact (CaseFold.agree_iff (by decide) (by decide) caseSensitive d).mp agrees
            · exact (CaseFold.agree_iff (by decide) (by decide) caseSensitive d).mp agrees
          rw [same]
          rfl

/-- A slash that the last literal gives up may be left of the path, or be missing from it. -/
private theorem differsBySlash_dropFinalSlash (text : List Char) {rest : List Char}
    (leaves : Extent.whole.Leaves rest) : DiffersBySlash text (dropFinalSlash text ++ rest) := by
  have given : ∃ last, text = dropFinalSlash text ++ last ∧ Extent.whole.Leaves last := by
    rcases dropFinalSlash_append text with whole | cut
    · exact ⟨[], by rw [List.append_nil, ← whole], Or.inl rfl⟩
    · exact ⟨['/'], cut, Or.inr rfl⟩
  rcases given with ⟨last, split, isLast⟩
  have differs := (DiffersBySlash.of_leaves isLast leaves).append_left (dropFinalSlash text)
  rwa [← split] at differs

private theorem fill_of_written_some {values : Params} {key : Key} {separator : Option Char}
    {parts : List Part} {value : List Char} {choices : Captures}
    (written : values.written ((Part.param key separator :: parts).filterMap Part.key?) =
      some value :: choices) :
    (Part.param key separator).fill values = .ok (separator.toList ++ value) := by
  have here : (values.nonempty? key.name).map _ = some value := (List.cons.inj written).1
  rcases Option.map_eq_some_iff.mp here with ⟨text, found, encoded⟩
  exact fill_param_eq_ok.mpr (Or.inl ⟨text, found, by rw [encoded]⟩)

private theorem fill_of_written_none {values : Params} {key : Key} {separator : Option Char}
    {parts : List Part} {choices : Captures} (optional : key.optional = true)
    (written : values.written ((Part.param key separator :: parts).filterMap Part.key?) =
      none :: choices) :
    (Part.param key separator).fill values = .ok [] := by
  have absent : values.nonempty? key.name = none :=
    Option.map_eq_none_iff.mp (List.cons.inj written).1
  exact fill_param_eq_ok.mpr (Or.inr ⟨absent, optional, rfl⟩)

/-- Filling the template with the choices of a decomposition writes the path again, up to the
spelling of literals and a slash at the end. -/
theorem Decomposes.respells_filled {values : Params} {parts : List Part} {path : List Char}
    {choices : Captures}
    (decomposes : Decomposes (CaseFold.agree caseSensitive) Extent.whole.Leaves parts path choices)
    (separates : ∀ key c, .param key (some c) ∈ parts → isSeparator c = true)
    (written : values.written (parts.filterMap Part.key?) = choices) :
    ∃ filled respelled, fillParts values parts = .ok filled ∧
      Respells (CaseFold.agree caseSensitive) parts choices path respelled ∧
      DiffersBySlash filled respelled := by
  induction decomposes with
  | @done rest leaves => exact ⟨[], rest, rfl, .rest rest, .of_leaves (Or.inl rfl) leaves⟩
  | @literal text parts piece path choices more spelled _ inductionHypothesis =>
      have stands : standing text parts = text.toList := standing_of_ne_nil more
      rcases inductionHypothesis
          (fun key c member => separates key c (List.mem_cons_of_mem _ member)) written with
        ⟨filled, respelled, isFilled, respells, differs⟩
      rw [← stands] at spelled
      refine ⟨_, _, fillParts_cons_eq_ok.mpr ⟨_, filled, rfl, isFilled, rfl⟩,
        .literal spelled respells, ?_⟩
      rw [stands]
      exact differs.append_left _
  | @lastLiteral text piece rest spelled leaves =>
      refine ⟨_, _, fillParts_cons_eq_ok.mpr ⟨_, [], rfl, rfl, rfl⟩,
        .literal spelled (.rest rest), ?_⟩
      rw [List.append_nil]
      exact differsBySlash_dropFinalSlash text.toList leaves
  | @taken key separator parts lead value path choices spelled isValue _ inductionHypothesis =>
      rcases inductionHypothesis
          (fun key c member => separates key c (List.mem_cons_of_mem _ member))
          (List.cons.inj written).2 with
        ⟨filled, respelled, isFilled, respells, differs⟩
      have separatesHere : ∀ c, separator = some c → isSeparator c = true := by
        intro c same
        rw [same] at separates
        exact separates key c List.mem_cons_self
      have first := fillParts_cons_eq_ok.mpr
        ⟨_, filled, fill_of_written_some written, isFilled, rfl⟩
      rw [eq_of_spells_separator separatesHere spelled]
      refine ⟨_, _, first, .taken respells, ?_⟩
      rw [← List.append_assoc]
      exact differs.append_left _
  | @omitted key separator parts path choices optional _ inductionHypothesis =>
      rcases inductionHypothesis
          (fun key c member => separates key c (List.mem_cons_of_mem _ member))
          (List.cons.inj written).2 with
        ⟨filled, respelled, isFilled, respells, differs⟩
      have first := fillParts_cons_eq_ok.mpr
        ⟨[], filled, fill_of_written_none optional written, isFilled, rfl⟩
      exact ⟨_, _, first, .omitted respells, differs⟩

end Template

namespace Route

variable {text : String} {caseSensitive : Bool} {r : Route}

/-- Values that were decoded from canonical captures are written as these captures. -/
private theorem written_of_decodes {values : Params} {keys : List Key} {choices : Captures}
    {decoded : List (Option String)} (allows : List.Forall₂ Key.Allows keys choices)
    (all : List.Forall₂ Decodes choices decoded)
    (listed : ∀ e ∈ (keys.map Key.name).zip decoded, e ∈ values.entries)
    (nonempty : ∀ name, (name, some "") ∉ values.entries)
    (canonical : ∀ raw, some raw ∈ choices → Percent.IsCanonical raw) :
    values.written keys = choices := by
  induction allows generalizing decoded with
  | nil => rfl
  | @cons key choice keys choices _ _ inductionHypothesis =>
      cases all with
      | @cons _ held _ later decodes allLater =>
          have here : (key.name, held) ∈ values.entries := listed _ List.mem_cons_self
          have found := OrderedMap.find?_eq_some_of_mem here
          have writtenLater := inductionHypothesis allLater
            (fun e member => listed e (List.mem_cons_of_mem _ member))
            (fun raw member => canonical raw (List.mem_cons_of_mem _ member))
          have writtenHere : (values.nonempty? key.name).map
              (fun value => Percent.encode value.toList) = choice := by
            cases choice with
            | none =>
                have absent : held = none := decodes
                rw [absent] at found
                simp only [Params.nonempty?, Params.get?, found, Option.join_some,
                  Option.filter_none, Option.map_none]
            | some raw =>
                rcases decodes with ⟨value, read, rfl⟩
                have notEmpty : String.ofList value ≠ "" := by
                  intro empty
                  rw [empty] at here
                  exact nonempty key.name here
                have isCanonical := canonical raw List.mem_cons_self
                rw [Percent.IsCanonical, read] at isCanonical
                rw [Params.nonempty?_eq_some found notEmpty, Option.map_some, String.toList_ofList]
                exact isCanonical
          rw [Params.written, List.map_cons, writtenHere]
          exact congrArg _ writtenLater

/-- What was matched is formatted to the path it was matched in, provided that the captures are
canonical.  The two may differ by one slash at the end, and if case does not count then by the
spelling of the characters that literals matched. -/
theorem format_of_canonical (compiled : compile text caseSensitive = .ok r) {path : String}
    {m : Match} (found : r.matchLocation (.ofPath path) .whole = .found m)
    (canonical : ∀ captures, (r.pattern .whole).captures? path = some captures →
      ∀ raw, some raw ∈ captures → Percent.IsCanonical raw.toList) :
    ∃ url choices respelled, r.format m.params none = .ok url ∧
      (r.pattern .whole).captures? path = some (Template.spellOut choices) ∧
      Template.Respells (CaseFold.agree r.caseSensitive) r.template.parts choices path.toList
        respelled ∧
      DiffersBySlash url.toList respelled ∧
      (r.caseSensitive = true → DiffersBySlash url.toList path.toList) := by
  rcases entries_of_found compiled found with ⟨choices, decoded, prefers, all, -, entries⟩
  have captured : (r.pattern .whole).captures? path = some (Template.spellOut choices) :=
    (r.template.captures?_eq_some_iff _ _ _ _).mpr ⟨choices, rfl, prefers⟩
  have written : m.params.written r.keys = choices := by
    apply written_of_decodes prefers.1.allows all
    · intro e listed
      rw [entries]
      exact listed
    · intro name
      exact ne_empty_of_found compiled found
    · intro raw member
      have isCanonical := canonical _ captured (String.ofList raw)
        (List.mem_map.mpr ⟨some raw, member, rfl⟩)
      rwa [String.toList_ofList] at isCanonical
  have separates := isSeparator_of_compile compiled
  have reads : Template.Decomposes (CaseFold.agree r.caseSensitive) Extent.whole.Leaves
      r.template.parts path.toList choices := prefers.1
  rcases reads.respells_filled separates written with
    ⟨filled, respelled, isFilled, respells, differs⟩
  have formatted : r.format m.params none = .ok (Location.pathOrRoot filled) := by
    refine format_eq_ok.mpr ⟨filled, isFilled, ?_⟩
    exact String.append_empty.symm
  refine ⟨_, choices, respelled, formatted, captured, respells, differs.pathOrRoot, ?_⟩
  intro sensitive
  rw [sensitive] at respells
  rw [← respells.eq_of_caseSensitive]
  exact differs.pathOrRoot

/-- A last literal that keeps its slash, behind a value with an escape and an omitted one, in a path
of capital letters and without that slash. -/
theorem format_of_canonical_docs :
    let r : Route := ⟨"/docs/:id.:ext?/end\\/", ⟨[.literal "/docs", .param ⟨"id", false⟩ (some '/'),
      .param ⟨"ext", true⟩ (some '.'), .literal "/end/"]⟩, false⟩
    let m : Match := ⟨OrderedMap.ofList [("id", some "a b"), ("ext", none)], none⟩
    compile "/docs/:id.:ext?/end\\//" false = .ok r ∧
      r.matchLocation (.ofPath "/DOCS/a%20b/End") .whole = .found m ∧
      ∃ url choices respelled, r.format m.params none = .ok url ∧ url = "/docs/a%20b/end/" ∧
        (r.pattern .whole).captures? "/DOCS/a%20b/End" = some (Template.spellOut choices) ∧
        Template.Respells (CaseFold.agree false) r.template.parts choices
          "/DOCS/a%20b/End".toList respelled ∧
        DiffersBySlash url.toList respelled := by
  intro r m
  have compiled : compile "/docs/:id.:ext?/end\\//" false = .ok r := by decide +kernel
  have found : r.matchLocation (.ofPath "/DOCS/a%20b/End") .whole = .found m := by decide +kernel
  have captured : (r.pattern .whole).captures? "/DOCS/a%20b/End" = some [some "a%20b", none] := by
    decide +kernel
  have canonical : ∀ captures, (r.pattern .whole).captures? "/DOCS/a%20b/End" = some captures →
      ∀ raw, some raw ∈ captures → Percent.IsCanonical raw.toList := by
    intro captures same raw member
    rw [captured, Option.some.injEq] at same
    subst same
    have listed : raw = "a%20b" := by simpa using member
    rw [listed]
    decide +kernel
  rcases format_of_canonical compiled found canonical with
    ⟨url, choices, respelled, formatted, read, respells, differs, -⟩
  have expected : r.format m.params none = .ok "/docs/a%20b/end/" := by decide +kernel
  have same : url = "/docs/a%20b/end/" := Except.ok.inj (formatted.symm.trans expected)
  exact ⟨compiled, found, url, choices, respelled, formatted, same, read, respells, differs⟩

end Route
end PathTemplate
