import PathTemplate.Proofs.CommandLine.Execution
import PathTemplate.Proofs.CommandLine.Spelling
import PathTemplate.Proofs.Route.Rewriting

namespace PathTemplate

/-!
# Where the options of a rewriting stand

The options of a rewriting and its URL may be interleaved in any way.  The overrides do remember the
order in which their names first came, but the template asks them for the values of its own names
only.  A name that is to be dropped loses every value it was given, before or behind.  Such values
are read all the same, so that the first text that is no pair still decides the failure.
-/

namespace Params

/-- Values agree on the names that are not dropped. -/
def AgreeOutside (dropped : List String) (values others : Params) : Prop :=
  ∀ name, name ∉ dropped → values.find? name = others.find? name

variable {dropped : List String} {values others : Params}

theorem AgreeOutside.insert (agree : AgreeOutside dropped values others) (name value : String) :
    AgreeOutside dropped (values.insert name value) (others.insert name value) := by
  intro other kept
  simp [Params.insert, agree other kept]

theorem AgreeOutside.insert_left (agree : AgreeOutside dropped values others) {name : String}
    (listed : name ∈ dropped) (value : String) :
    AgreeOutside dropped (values.insert name value) others := by
  intro other kept
  have different : other ≠ name := by
    rintro rfl
    exact kept listed
  simp [Params.insert, different, agree other kept]

/-- Dropping names leaves them without a value, in whichever order and however often it is done. -/
theorem find?_foldl_unset (values : Params) (dropped : List String) (name : String) :
    (dropped.foldl unset values).find? name =
      if name ∈ dropped then some none else values.find? name := by
  induction dropped generalizing values with
  | nil => rfl
  | cons first dropped inductionHypothesis =>
      rw [List.foldl_cons, inductionHypothesis, unset]
      by_cases later : name ∈ dropped <;> simp [later]

/-- Values that agree on the other names agree on all when the names are dropped. -/
theorem AgreeOutside.find?_foldl_unset (agree : AgreeOutside dropped values others)
    {names : List String} (same : ∀ name, name ∈ names ↔ name ∈ dropped) (name : String) :
    (dropped.foldl unset values).find? name = (names.foldl unset others).find? name := by
  rw [Params.find?_foldl_unset, Params.find?_foldl_unset]
  by_cases listed : name ∈ dropped
  · rw [if_pos listed, if_pos ((same name).mpr listed)]
  · rw [if_neg listed, if_neg (fun member => listed ((same name).mp member)), agree name listed]

end Params

/-- Overrides count by the values they have for each name, and not by their order. -/
theorem Route.replace_congr {r : Route} {values others : Params}
    (same : ∀ name, values.find? name = others.find? name) (l : Location) (query : Option Query) :
    r.replace l (some values) query = r.replace l (some others) query := by
  cases matched : r.matchLocation l .whole with
  | noMatch => rw [replace_of_noMatch matched, replace_of_noMatch matched]
  | found m =>
      have merged (given : Params) :
          m.overriddenParams (some given) = m.params.merge given := rfl
      have shown : ∀ key ∈ r.keys, (m.overriddenParams (some values)).nonempty? key.name =
          (m.overriddenParams (some others)).nonempty? key.name := by
        intro key _
        simp only [merged, Params.nonempty?, Params.get?, OrderedMap.find?_merge, same key.name]
      rw [replace_of_found matched, replace_of_found matched, format_congr shown]

namespace CommandLine

/-- The second texts are the first without some that give a value to a name that is dropped. -/
inductive Overruled (dropped : List String) : List String → List String → Prop where
  | none : Overruled dropped [] []
  | kept {texts others : List String} (text : String) (later : Overruled dropped texts others) :
      Overruled dropped (text :: texts) (text :: others)
  | beaten {texts others : List String} {text : String} {pair : String × String}
      (gives : Gives text pair) (listed : pair.1 ∈ dropped)
      (later : Overruled dropped texts others) : Overruled dropped (text :: texts) others

namespace Overruled

variable {dropped : List String}

theorem refl (texts : List String) : Overruled dropped texts texts := by
  induction texts with
  | nil => exact .none
  | cons text texts inductionHypothesis => exact .kept text inductionHypothesis

/-- Texts that are overruled are read nevertheless: either the same text is the first one that is no
pair, or what is given agrees on the names that are not dropped. -/
theorem read_both {texts others : List String} (overruled : Overruled dropped texts others) :
    (∃ text, FirstMalformed texts text ∧ FirstMalformed others text) ∨
    ∃ pairs fewer, List.Forall₂ Gives texts pairs ∧ List.Forall₂ Gives others fewer ∧
      ∀ values more, Params.AgreeOutside dropped values more → Params.AgreeOutside dropped
        (pairs.foldl (fun values pair => values.insert pair.1 pair.2) values)
        (fewer.foldl (fun values pair => values.insert pair.1 pair.2) more) := by
  induction overruled with
  | none => exact Or.inr ⟨[], [], .nil, .nil, fun _ _ agree => agree⟩
  | @kept texts others text later inductionHypothesis =>
      by_cases isMalformed : IsMalformed text
      · exact Or.inl ⟨text, .head isMalformed texts, .head isMalformed others⟩
      · rcases inductionHypothesis with
          ⟨first, found, foundToo⟩ | ⟨pairs, fewer, given, givenToo, agreeing⟩
        · exact Or.inl ⟨first, found.cons isMalformed, foundToo.cons isMalformed⟩
        · rcases exists_gives_iff.mpr isMalformed with ⟨pair, gives⟩
          refine Or.inr ⟨pair :: pairs, pair :: fewer, .cons gives given, .cons gives givenToo, ?_⟩
          intro values more agree
          exact agreeing _ _ (agree.insert pair.1 pair.2)
  | @beaten texts others text pair gives listed later inductionHypothesis =>
      rcases inductionHypothesis with
        ⟨first, found, foundToo⟩ | ⟨pairs, fewer, given, givenToo, agreeing⟩
      · exact Or.inl ⟨first, found.cons gives.not_isMalformed, foundToo⟩
      · refine Or.inr ⟨pair :: pairs, fewer, .cons gives given, givenToo, ?_⟩
        intro values more agree
        exact agreeing _ _ (agree.insert_left listed pair.2)

end Overruled

section Rewriting

variable {read : String → Except FileFault String} {i j : Invocation}

/-- Rewritings of one URL by one template come to the same if their queries are the same, they drop
the same names, and their parameters differ in overruled ones only. -/
theorem execute_replace_congr {url : String} {params others queries unset names : List String}
    (action : i.action = .replace url params queries unset)
    (actionToo : j.action = .replace url others queries names)
    (sameTemplate : chooseRoute read i = chooseRoute read j)
    (overruled : Overruled unset params others)
    (sameNames : ∀ name, name ∈ names ↔ name ∈ unset) (written : String) :
    (execute read i).after written = (execute read j).after written := by
  rw [execute_of_replace action, execute_of_replace actionToo, gather, gather, sameTemplate]
  cases chooseRoute read j with
  | error f => simp only [Execution.after_error]
  | ok route =>
      simp only [Execution.after_ok]
      rcases overruled.read_both with
        ⟨text, first, firstToo⟩ | ⟨pairs, fewer, given, givenToo, agreeing⟩
      · simp only [readParams_of_firstMalformed first, readParams_of_firstMalformed firstToo,
          Execution.after_error]
      · have agree : Params.AgreeOutside unset (paramsGiven pairs) (paramsGiven fewer) :=
          agreeing _ _ fun _ _ => rfl
        simp only [readParams_of_gives given, readParams_of_gives givenToo, Execution.after_ok]
        cases readQuery queries with
        | error f => simp only [Execution.after_error]
        | ok query =>
            simp only [Execution.after_ok, route.replace_congr (agree.find?_foldl_unset sameNames)]

/-- The options of a rewriting may be interleaved with each other and with the URL in any way: what
counts is the order of the parameters among themselves, that of the query values among themselves,
and the set of the names to drop.  A name to drop beats every value that is given to it, wherever
that stands: the command comes to the same without it.  Every command line that asks for a rewriting
spells items of which this can be told. -/
theorem execute_interleaved {args others : List String}
    (accepted : readInvocation args = .ok i) (acceptedToo : readInvocation others = .ok j)
    (sameTemplate : chooseRoute read i = chooseRoute read j) :
    ((∃ url params queries unset, i.action = .replace url params queries unset) →
      ∃ items, Replaces args items) ∧
    ∀ items more, Replaces args items → Replaces others more → urlsOf more = urlsOf items →
      valuesOf "query" more = valuesOf "query" items →
      (∀ name, name ∈ valuesOf "unset" more ↔ name ∈ valuesOf "unset" items) →
      (valuesOf "param" more = valuesOf "param" items →
        ∀ written, (execute read i).after written = (execute read j).after written) ∧
      (Overruled (valuesOf "unset" items) (valuesOf "param" items) (valuesOf "param" more) →
        ∀ written, (execute read i).after written = (execute read j).after written) := by
  refine ⟨?_, ?_⟩
  · rintro ⟨url, params, queries, unset, action⟩
    exact exists_replaces accepted action
  · intro items more replaces replacesToo sameUrls sameQueries sameNames
    rcases action_of_replaces accepted replaces with ⟨url, single, action⟩
    rcases action_of_replaces acceptedToo replacesToo with ⟨other, singleToo, actionToo⟩
    have sameUrl : other = url := by
      rw [sameUrls, single] at singleToo
      exact (List.cons.inj singleToo).1.symm
    rw [sameUrl, sameQueries] at actionToo
    constructor
    · intro sameParams
      rw [sameParams] at actionToo
      exact execute_replace_congr action actionToo sameTemplate (.refl _) sameNames
    · intro overruled
      exact execute_replace_congr action actionToo sameTemplate overruled sameNames

/-- One rewriting told in two ways: the name to drop stands in front of a value for it and behind it
in the one, and without any value for it in the other. -/
theorem execute_interleaved_users :
    let read : String → Except FileFault String := fun _ => .error .notFound
    let args := ["-t", "/users/:id/:tab?", "replace", "--unset", "tab", "--param", "id=1",
      "/users/7/posts?x=1", "--query=y=2", "--param=tab=z", "--param", "id=8"]
    let others := ["--template=/users/:id/:tab?", "replace", "--param", "id=1", "--param=id=8",
      "--unset=tab", "--query", "y=2", "--unset", "tab", "--", "/users/7/posts?x=1"]
    ∃ i j, readInvocation args = .ok i ∧ readInvocation others = .ok j ∧
      (execute read i).after "" = (execute read j).after "" := by
  intro read args others
  have unset : ⟨"unset", none, .repeatable⟩ ∈ (commandGrammar "replace").switches := by decide
  have param : paramSwitch ∈ (commandGrammar "replace").switches := by decide
  have query : querySwitch ∈ (commandGrammar "replace").switches := by decide
  have replaces : Replaces args [.option "unset" "tab", .option "param" "id=1",
      .url "/users/7/posts?x=1", .option "query" "y=2", .option "param" "tab=z",
      .option "param" "id=8"] :=
    ⟨_, _, rfl, .apart unset (by decide) <| .apart param (by decide) <| .bare (by decide) <|
      @Spells.attached _ _ "y=2" _ _ query <| @Spells.attached _ _ "tab=z" _ _ param <|
      .apart param (by decide) .done⟩
  have replacesToo : Replaces others [.option "param" "id=1", .option "param" "id=8",
      .option "unset" "tab", .option "query" "y=2", .option "unset" "tab",
      .url "/users/7/posts?x=1"] :=
    ⟨_, _, rfl, .apart param (by decide) <| @Spells.attached _ _ "id=8" _ _ param <|
      @Spells.attached _ _ "tab" _ _ unset <| .apart query (by decide) <|
      .apart unset (by decide) <| .ended ["/users/7/posts?x=1"]⟩
  have gives : Gives "tab=z" ("tab", "z") := ⟨by decide, by decide, by decide⟩
  have overruled : Overruled ["tab"] ["id=1", "tab=z", "id=8"] ["id=1", "id=8"] :=
    .kept "id=1" <| .beaten gives List.mem_cons_self <| .refl _
  have sameNames : ∀ name, name ∈ ["tab", "tab"] ↔ name ∈ ["tab"] := by simp
  have accepted : readInvocation args = .ok ⟨some "/users/:id/:tab?", none, none,
    .replace "/users/7/posts?x=1" ["id=1", "tab=z", "id=8"] ["y=2"] ["tab"]⟩ := rfl
  have acceptedToo : readInvocation others = .ok ⟨some "/users/:id/:tab?", none, none,
    .replace "/users/7/posts?x=1" ["id=1", "id=8"] ["y=2"] ["tab", "tab"]⟩ := rfl
  have sameTemplate {first second : Action} :
      chooseRoute read ⟨some "/users/:id/:tab?", none, none, first⟩ =
        chooseRoute read ⟨some "/users/:id/:tab?", none, none, second⟩ := by
    rw [chooseRoute_of_text rfl, chooseRoute_of_text rfl]
  have same := (execute_interleaved accepted acceptedToo sameTemplate).2 _ _ replaces replacesToo
    rfl rfl sameNames
  exact ⟨_, _, accepted, acceptedToo, same.2 overruled ""⟩

end Rewriting

end CommandLine
end PathTemplate
