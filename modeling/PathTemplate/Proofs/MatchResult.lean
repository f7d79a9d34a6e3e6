import Mathlib.Data.List.Basic
import PathTemplate.CommandLine.Run
import PathTemplate.Proofs.Json
import PathTemplate.Proofs.OrderedMap

namespace PathTemplate

/-!
# What the JSON form of an outcome tells

The JSON form of an outcome loses nothing.  The status tells a match from none.  Members keep the
order of the entries they come from, an absent value is `null` and not a text, and whether there is
a query is told by its member, so that a query without entries is an empty object.  Since a JSON
text tells its value, what a command prints tells what it found.
-/

/-- An object that holds the entries of a map tells the map, if its values tell theirs. -/
private theorem object_entries_inj {β : Type} {form : β → Json}
    (told : ∀ value held, form value = form held → value = held) {m other : OrderedMap β}
    (same : Json.object (m.entries.map fun e => (e.1, form e.2)) =
      Json.object (other.entries.map fun e => (e.1, form e.2))) : m = other := by
  have toldEntry : ∀ e f : String × β, (e.1, form e.2) = (f.1, form f.2) → e = f := by
    intro e f alike
    have parts := Prod.mk.inj alike
    exact Prod.ext parts.1 (told e.2 f.2 parts.2)
  exact OrderedMap.ext ((List.map_inj_right toldEntry).mp (Json.object.inj same))

theorem Params.toJson_inj {p other : Params} (same : p.toJson = other.toJson) : p = other := by
  have told : ∀ value held : Option String,
      value.elim Json.null Json.string = held.elim Json.null Json.string → value = held := by
    intro value held alike
    cases value with
    | none =>
        cases held with
        | none => rfl
        | some text => cases alike
    | some value =>
        cases held with
        | none => cases alike
        | some text => exact congrArg some (Json.string.inj alike)
  exact object_entries_inj told same

theorem Query.toJson_inj {q other : Query} (same : q.toJson = other.toJson) : q = other :=
  object_entries_inj (fun _ _ => Json.string.inj) same

/-- An absent value is not one that reads like its written form. -/
theorem Params.unset_ne_insert (p : Params) (name value : String) :
    p.unset name ≠ p.insert name value := by
  intro same
  have values := congrArg (OrderedMap.find? · name) same
  simp [unset, insert] at values

namespace MatchResult

theorem toJson_noMatch_ne (m : Match) : noMatch.toJson ≠ (found m).toJson := by
  intro same
  have status := (List.cons.inj (Json.object.inj same)).1
  exact absurd (Json.string.inj (Prod.mk.inj status).2) (by decide)

theorem toJson_found_inj {m other : Match} (same : (found m).toJson = (found other).toJson) :
    m = other := by
  have members := List.cons.inj (List.cons.inj (Json.object.inj same)).2
  have sameParams : m.params = other.params := Params.toJson_inj (Prod.mk.inj members.1).2
  rcases m with ⟨params, query⟩
  rcases other with ⟨others, shown⟩
  cases sameParams
  cases query with
  | none =>
      cases shown with
      | none => rfl
      | some q => cases members.2
  | some held =>
      cases shown with
      | none => cases members.2
      | some q =>
          have sameQuery := (Prod.mk.inj (List.cons.inj members.2).1).2
          rw [Query.toJson_inj sameQuery]

/-- The JSON form tells the outcome. -/
theorem toJson_inj {a b : MatchResult} (same : a.toJson = b.toJson) : a = b := by
  cases a with
  | noMatch =>
      cases b with
      | noMatch => rfl
      | found other => exact absurd same (toJson_noMatch_ne other)
  | found m =>
      cases b with
      | noMatch => exact absurd same.symm (toJson_noMatch_ne m)
      | found other => exact congrArg found (toJson_found_inj same)

end MatchResult

namespace CommandLine

/-- What a command that matches a URL finds. -/
def Finds (read : String → Except FileFault String) (i : Invocation) (result : MatchResult) : Prop :=
  ∃ url leading route, i.action = .matchUrl url leading ∧ chooseRoute read i = .ok route ∧
    route.matchUrl url (if leading then .leading else .whole) = result

/-- It prints the text of what it finds, and a line break behind that. -/
theorem run_of_finds {read : String → Except FileFault String} {i : Invocation}
    {result : MatchResult} (finds : Finds read i result) :
    run read i = .ok ⟨result.isMatch, result.toJson.toPretty ++ "\n"⟩ := by
  rcases finds with ⟨url, leading, route, action, chosen, rfl⟩
  rw [run, execute, action, chosen]
  exact congrArg (fun output => Except.ok (Outcome.mk _ output)) String.empty_append

theorem output_eq_iff {a b : MatchResult} :
    a.toJson.toPretty ++ "\n" = b.toJson.toPretty ++ "\n" ↔ a = b := by
  constructor
  · intro same
    exact MatchResult.toJson_inj (Json.toPretty_append_inj same).1
  · intro same
    rw [same]

end CommandLine

namespace MatchResult

theorem text_eq_iff {text : Json → String} (form : text ∈ [Json.toCompact, Json.toPretty])
    {a b : MatchResult} : text a.toJson = text b.toJson ↔ a = b := by
  constructor
  · intro same
    have behind : text a.toJson ++ "" = text b.toJson ++ "" := congrArg (· ++ "") same
    rcases List.mem_pair.mp form with rfl | rfl
    · exact toJson_inj (Json.toCompact_append_inj behind).1
    · exact toJson_inj (Json.toPretty_append_inj behind).1
  · intro same
    rw [same]

/-- Outcomes with the same text are the same, entries and their order included, whatever characters
the names and values hold.  This goes for the compact text and for the one with a line for each
member.  So no match, a match without query and a match with a query, be it an empty one, have
different texts, and so have an absent value and the text that it is written like.  Two commands
that match a URL print the same only if they find the same. -/
theorem toJson_told_by_texts :
    (∀ text ∈ [Json.toCompact, Json.toPretty],
      (∀ a b : MatchResult, text a.toJson = text b.toJson ↔ a = b) ∧
      (∀ m, text noMatch.toJson ≠ text (found m).toJson) ∧
      (∀ p other q, text (found ⟨p, none⟩).toJson ≠ text (found ⟨other, some q⟩).toJson) ∧
      ∀ (p : Params) (name : String) (query : Option Query),
        text (found ⟨p.unset name, query⟩).toJson ≠
          text (found ⟨p.insert name "null", query⟩).toJson) ∧
    ∀ read reread i j a b, CommandLine.Finds read i a → CommandLine.Finds reread j b →
      ∃ o p, CommandLine.run read i = .ok o ∧ CommandLine.run reread j = .ok p ∧
        (o.output = p.output ↔ a = b) := by
  constructor
  · intro text form
    refine ⟨fun a b => text_eq_iff form, ?_, ?_, ?_⟩
    · intro m same
      cases (text_eq_iff form).mp same
    · intro p other q same
      cases (text_eq_iff form).mp same
    · intro p name query same
      have results := (text_eq_iff form).mp same
      exact p.unset_ne_insert name "null" (Match.mk.inj (found.inj results)).1
  · intro read reread i j a b one another
    exact ⟨_, _, CommandLine.run_of_finds one, CommandLine.run_of_finds another,
      CommandLine.output_eq_iff⟩

/-- A value that spells out the members of another outcome, and two commands, of which one finds a
quote and the other the text of an absent value. -/
theorem toJson_told_by_texts_forged :
    let forged : MatchResult :=
      .found ⟨OrderedMap.ofList [("id", some "1\",\"tab\":null,\"x\":\"2")], none⟩
    let other : MatchResult :=
      .found ⟨OrderedMap.ofList [("id", some "1"), ("tab", none), ("x", some "2")], none⟩
    let read : String → Except FileFault String := fun _ => .error .notFound
    let quoted : CommandLine.Invocation :=
      ⟨some "/p/:id/:tab?", none, none, .matchUrl "/p/%22?q=%5C" false⟩
    let named : CommandLine.Invocation :=
      ⟨some "/p/:id/:tab?", none, none, .matchUrl "/p/null?q" false⟩
    let first : MatchResult :=
      .found ⟨OrderedMap.ofList [("id", some "\""), ("tab", none)],
        some (OrderedMap.ofList [("q", "\\")])⟩
    let second : MatchResult :=
      .found ⟨OrderedMap.ofList [("id", some "null"), ("tab", none)],
        some (OrderedMap.ofList [("q", "")])⟩
    Json.toPretty ∈ [Json.toCompact, Json.toPretty] ∧
      forged.toJson.toPretty ≠ other.toJson.toPretty ∧
      CommandLine.Finds read quoted first ∧ CommandLine.Finds read named second ∧
      ∃ o p, CommandLine.run read quoted = .ok o ∧ CommandLine.run read named = .ok p ∧
        o.output ≠ p.output := by
  intro forged other read quoted named first second
  have form : Json.toPretty ∈ [Json.toCompact, Json.toPretty] :=
    List.mem_cons_of_mem _ List.mem_cons_self
  have route : CommandLine.chooseRoute read quoted = .ok ⟨"/p/:id/:tab?",
      ⟨[.literal "/p", .param ⟨"id", false⟩ (some '/'), .param ⟨"tab", true⟩ (some '/')]⟩,
      false⟩ := by decide +kernel
  have findsFirst : CommandLine.Finds read quoted first :=
    ⟨_, _, _, rfl, route, by decide +kernel⟩
  have findsSecond : CommandLine.Finds read named second :=
    ⟨_, _, _, rfl, route, by decide +kernel⟩
  have forgedNe : forged ≠ other := by decide +kernel
  have differ : first ≠ second := by decide +kernel
  rcases toJson_told_by_texts.2 read read quoted named first second findsFirst findsSecond with
    ⟨o, p, ran, ranToo, sameOutput⟩
  exact ⟨form, mt ((toJson_told_by_texts.1 _ form).1 forged other).mp forgedNe, findsFirst,
    findsSecond, o, p, ran, ranToo, mt sameOutput.mp differ⟩

end MatchResult
end PathTemplate
