import Mathlib.Data.List.Nodup
import PathTemplate.CommandLine.Invocation
import PathTemplate.Proofs.Text.Separator

namespace PathTemplate
namespace CommandLine

/-!
# How arguments are spelled

What follows a command whose options may all be repeated is a list of items: options with their
values, and arguments without a name.  The value of an option is attached to it or stands behind it,
and behind `--` everything is an argument without a name.  Reading collects the items one after the
other, so that the values of an option are found in the order in which they stand, whatever stands
between them.  Nothing else is accepted.
-/

/-- What one argument tells a command, or an argument and the value behind it. -/
inductive Item where
  | option (name value : String)
  | url (text : String)
deriving DecidableEq, Repr

namespace Item

/-- The value that is given to an option. -/
def value? (name : String) : Item → Option String
  | option other value => if other = name then some value else none
  | url _ => none

/-- The argument without a name. -/
def url? : Item → Option String
  | option _ _ => none
  | url text => some text

end Item

/-- The values that items give to an option, in order. -/
def valuesOf (name : String) (items : List Item) : List String :=
  items.filterMap (Item.value? name)

/-- The arguments without a name, in order. -/
def urlsOf (items : List Item) : List String :=
  items.filterMap Item.url?

/-- A text that is not taken for an option: it does not begin with a hyphen, or is one. -/
def IsBare (text : String) : Prop :=
  text.toList.head? ≠ some '-' ∨ text.toList = ['-']

instance (text : String) : Decidable (IsBare text) :=
  inferInstanceAs (Decidable (_ ∨ _))

/-- Arguments spell items. -/
inductive Spells (gr : Grammar) : List String → List Item → Prop where
  | done : Spells gr [] []
  /-- The value is attached to the option by an equals sign, and may be any text. -/
  | attached {s : Switch} {value : String} {args : List String} {items : List Item}
      (declared : s ∈ gr.switches) (later : Spells gr args items) :
      Spells gr (("--" ++ s.name ++ "=" ++ value) :: args) (.option s.name value :: items)
  /-- The value stands behind the option, and does not look like one. -/
  | apart {s : Switch} {value : String} {args : List String} {items : List Item}
      (declared : s ∈ gr.switches) (bare : IsBare value) (later : Spells gr args items) :
      Spells gr (("--" ++ s.name) :: value :: args) (.option s.name value :: items)
  | bare {text : String} {args : List String} {items : List Item} (bare : IsBare text)
      (later : Spells gr args items) : Spells gr (text :: args) (.url text :: items)
  /-- No options are recognized any more. -/
  | ended (texts : List String) : Spells gr ("--" :: texts) (texts.map .url)

/-- A command that takes an argument without a name, and options that each take a value, may be
repeated, and are known by their names alone. -/
structure Grammar.IsPlain (gr : Grammar) : Prop where
  takesUrl : gr.takesUrl = true
  subcommands : gr.subcommands = []
  repeatable : ∀ s ∈ gr.switches, s.arity = .repeatable
  letterless : ∀ s ∈ gr.switches, s.letter = none
  ne_empty : ∀ s ∈ gr.switches, s.name ≠ ""
  ne_help : ∀ s ∈ gr.switches, s.name ≠ "help"
  plain : ∀ s ∈ gr.switches, '=' ∉ s.name.toList
  distinct : (gr.switches.map Switch.name).Nodup

theorem isPlain_replace : (commandGrammar "replace").IsPlain := by
  constructor <;> decide

theorem attached_ne_end (name value : String) : "--" ++ name ++ "=" ++ value ≠ "--" := by
  intro same
  have texts := congrArg String.toList same
  simp at texts

theorem not_isBare_iff {text : String} :
    ¬ IsBare text ↔ ∃ letter attached, text.toList = '-' :: letter :: attached := by
  rw [IsBare]
  cases text.toList with
  | nil => exact iff_of_false (fun other => other (Or.inl nofun)) nofun
  | cons first rest =>
      by_cases hyphen : first = '-'
      · subst hyphen
        cases rest with
        | nil => exact iff_of_false (fun other => other (Or.inr rfl)) nofun
        | cons letter attached => exact iff_of_true (by simp) ⟨letter, attached, rfl⟩
      · refine iff_of_false (fun other => other (Or.inl ?_)) ?_
        · intro same
          exact hyphen (Option.some.inj same)
        · rintro ⟨letter, attached, same⟩
          exact hyphen (List.cons.inj same).1

theorem IsBare.ne_hyphen {text : String} (bare : IsBare text) (letter : Char)
    (attached : List Char) : text.toList ≠ '-' :: letter :: attached :=
  fun same => not_isBare_iff.mpr ⟨letter, attached, same⟩ bare

theorem IsBare.ne_end {text : String} (bare : IsBare text) : text ≠ "--" := by
  rintro rfl
  exact bare.ne_hyphen '-' [] rfl

/-- A computation succeeds if its first step does and the others do after it. -/
theorem bind_eq_ok {α β : Type} {step : Except UsageFault α} {next : α → Except UsageFault β}
    {result : β} :
    step >>= next = .ok result ↔ ∃ value, step = .ok value ∧ next value = .ok result := by
  cases step with
  | error fault => exact iff_of_false nofun nofun
  | ok value =>
      constructor
      · intro ends
        exact ⟨value, rfl, ends⟩
      · rintro ⟨other, same, ends⟩
        cases same
        exact ends

/-! ## What has been given -/

namespace Given

variable {g more : Given} {s : Switch}

/-- Take one item. -/
def give (g : Given) : Item → Except UsageFault Given
  | .option name value => .ok { g with values := g.values ++ [(name, value)] }
  | .url text => if g.url.isNone then .ok { g with url := some text } else .error .unknownArgument

theorem settle_of_none (idle : g.pending = none) : g.settle = .ok g := by
  rw [settle, idle]

theorem take_of_repeatable (repeatable : s.arity = .repeatable) (g : Given) (value : String) :
    g.take s value = .ok { g with values := g.values ++ [(s.name, value)] } := by
  rw [take, repeatable]
  rfl

theorem take_eq_ok {value : String} (taken : g.take s value = .ok more) :
    more = { g with values := g.values ++ [(s.name, value)] } := by
  rw [take] at taken
  split at taken
  · cases taken
  · exact (Except.ok.inj taken).symm

/-- Completing an option leaves none that is begun, and the argument without a name as it is. -/
theorem settle_eq_ok (settled : g.settle = .ok more) :
    more.pending = none ∧ more.url = g.url := by
  rw [settle] at settled
  split at settled
  · cases settled
    exact ⟨‹_›, rfl⟩
  · cases settled
  · rw [take_eq_ok settled]
    exact ⟨rfl, rfl⟩

theorem settle_of_awaiting (awaiting : g.pending = some (s, none)) :
    g.settle = .error .missingValue := by
  rw [settle, awaiting]

theorem not_awaiting (settled : g.settle = .ok more) (s : Switch) :
    g.pending ≠ some (s, none) := by
  intro awaiting
  rw [settle_of_awaiting awaiting] at settled
  cases settled

theorem awaitsValue_of_none (idle : g.pending = none) : g.awaitsValue = false := by
  rw [awaitsValue, idle]

theorem complete_of_settle (settled : g.settle = .ok more) (repeatable : s.arity = .repeatable)
    (value : String) :
    g.complete s value = more.give (.option s.name value) := by
  rw [complete, settled]
  exact take_of_repeatable repeatable more value

theorem begin_of_settle (settled : g.settle = .ok more) :
    g.begin s = .ok { more with pending := some (s, none) } := by
  rw [begin, settled]
  rfl

/-- An option whose value has come is completed before anything else is read. -/
theorem settle_of_value (idle : g.pending = none) (repeatable : s.arity = .repeatable)
    (value : String) :
    ({ g with pending := some (s, some value) } : Given).settle =
      .ok { g with values := g.values ++ [(s.name, value)] } := by
  rw [settle]
  dsimp only
  rw [take_of_repeatable repeatable, idle]

/-- An option is only taken where none is still to be given its value. -/
theorem complete_eq_ok {value : String} (completed : g.complete s value = .ok more) :
    (∃ settled, g.settle = .ok settled) ∧ more.pending = none := by
  rw [complete, bind_eq_ok] at completed
  rcases completed with ⟨settled, settles, taken⟩
  rw [take_eq_ok taken]
  exact ⟨⟨settled, settles⟩, (settle_eq_ok settles).1⟩

theorem begin_eq_ok (begun : g.begin s = .ok more) :
    (∃ settled, g.settle = .ok settled) ∧ more.pending = some (s, none) := by
  rw [begin, bind_eq_ok] at begun
  rcases begun with ⟨settled, settles, rest⟩
  cases rest
  exact ⟨⟨settled, settles⟩, rfl⟩

theorem pending_of_give {item : Item} (took : g.give item = .ok more) :
    more.pending = g.pending := by
  cases item with
  | option name value =>
      cases took
      rfl
  | url text =>
      rw [give] at took
      split at took
      · cases took
        rfl
      · cases took

theorem all_append (g : Given) (name other value : String) :
    { g with values := g.values ++ [(other, value)] }.all name =
      g.all name ++ ((Item.option other value).value? name).toList := by
  by_cases same : other = name <;> simp [all, Item.value?, same]

/-- Items leave the values of each option in their order, and at most one argument without a
name. -/
theorem foldlM_give {items : List Item} (given : items.foldlM give g = .ok more) :
    (∀ name, more.all name = g.all name ++ valuesOf name items) ∧
      more.url.toList = g.url.toList ++ urlsOf items := by
  induction items generalizing g with
  | nil =>
      cases given
      exact ⟨fun name => (List.append_nil _).symm, (List.append_nil _).symm⟩
  | cons item items inductionHypothesis =>
      rw [List.foldlM_cons, bind_eq_ok] at given
      rcases given with ⟨next, took, goesOn⟩
      rcases inductionHypothesis goesOn with ⟨values, urls⟩
      cases item with
      | option name value =>
          cases took
          refine ⟨?_, urls⟩
          intro other
          rw [values, all_append, List.append_assoc, valuesOf, valuesOf, List.filterMap_cons]
          cases (Item.option name value).value? other <;> rfl
      | url text =>
          rw [give] at took
          split at took
          · cases took
            refine ⟨values, ?_⟩
            have untold : g.url = none := Option.isNone_iff_eq_none.mp ‹_›
            rw [urls, untold]
            rfl
          · cases took

theorem exists_foldlM_give {items : List Item}
    (single : (g.url.toList ++ urlsOf items).length ≤ 1) :
    ∃ more, items.foldlM give g = .ok more := by
  induction items generalizing g with
  | nil => exact ⟨g, rfl⟩
  | cons item items inductionHypothesis =>
      cases item with
      | option name value => exact inductionHypothesis single
      | url text =>
          cases taken : g.url with
          | some other =>
              rw [taken] at single
              exact absurd single (by simp [urlsOf, Item.url?])
          | none =>
              rw [List.foldlM_cons, give, taken]
              rw [taken] at single
              exact inductionHypothesis single

end Given

/-! ## Reading items -/

namespace Grammar

variable {gr : Grammar} {g more : Given}

/-- What has been given when all arguments are read. -/
def collect (gr : Grammar) (g : Given) (literally : Bool) (args : List String) :
    Except UsageFault Given := do
  let (g, _) ← gr.read g literally args
  g.settle

theorem collect_literally (gr : Grammar) (g : Given) (arg : String) (args : List String) :
    gr.collect g true (arg :: args) =
      gr.positional g true arg >>= fun next => gr.collect next true args := by
  rw [collect, read, if_pos rfl, bind_assoc]
  rfl

/-- An item is taken in front of those that the arguments behind it spell. -/
theorem give_collect (idle : more.pending = none) {literally : Bool} {args : List String}
    {items : List Item} (item : Item)
    (later : ∀ next : Given, next.settle = .ok next →
      gr.collect next literally args = items.foldlM Given.give next) :
    (more.give item >>= fun next => gr.collect next literally args) =
      (item :: items).foldlM Given.give more := by
  rw [List.foldlM_cons]
  cases took : more.give item with
  | error fault => rfl
  | ok next =>
      exact later next (Given.settle_of_none ((Given.pending_of_give took).trans idle))

/-- An argument behind two hyphens is cut at its first equals sign. -/
theorem argument_of_hyphens {arg : String} {rest : List Char}
    (text : arg.toList = '-' :: '-' :: rest) :
    gr.argument g arg =
      match rest.dropWhile (· ≠ '=') with
      | [] => gr.long g (String.ofList (rest.takeWhile (· ≠ '='))) none
      | _ :: value =>
          gr.long g (String.ofList (rest.takeWhile (· ≠ '='))) (some (String.ofList value)) := by
  rw [argument, text]
  rfl

theorem argument_of_name {name : List Char} (plain : '=' ∉ name) {arg : String}
    (text : arg.toList = '-' :: '-' :: name) :
    gr.argument g arg = gr.long g (String.ofList name) none := by
  have whole := Boundary.takeWhile_append plain .nil
  have nothing := Boundary.dropWhile_append plain .nil
  rw [List.append_nil] at whole nothing
  rw [argument_of_hyphens text, whole, nothing]

theorem argument_of_assignment {name value : List Char} (plain : '=' ∉ name) {arg : String}
    (text : arg.toList = '-' :: '-' :: (name ++ '=' :: value)) :
    gr.argument g arg = gr.long g (String.ofList name) (some (String.ofList value)) := by
  have ends : Boundary '=' ('=' :: value) := .cons value
  rw [argument_of_hyphens text, Boundary.takeWhile_append plain ends,
    Boundary.dropWhile_append plain ends]

theorem argument_of_hyphen {arg : String} {letter : Char} {attached : List Char}
    (other : letter ≠ '-') (text : arg.toList = '-' :: letter :: attached) :
    gr.argument g arg = gr.short g letter attached := by
  rw [argument, text]
  split
  · rename_i rest same
    exact absurd (List.cons.inj (List.cons.inj same).2).1 other
  · rename_i same
    cases same
    rfl
  · rename_i different
    exact absurd rfl (different letter attached)

theorem argument_of_bare {arg : String} (bare : IsBare arg) :
    gr.argument g arg =
      match g.pending with
      | some (s, none) => .ok { g with pending := some (s, some arg) }
      | _ => gr.positional g false arg := by
  rw [argument]
  split
  · exact absurd ‹_› (bare.ne_hyphen _ _)
  · exact absurd ‹_› (bare.ne_hyphen _ _)
  · rfl

namespace IsPlain

variable (plain : gr.IsPlain)

include plain

theorem no_subcommand (g : Given) (arg : String) :
    ¬ (!g.awaitsValue && gr.subcommands.contains arg) = true := by
  rw [plain.subcommands, List.contains_nil, Bool.and_false]
  exact Bool.false_ne_true

theorem collect_ended (g : Given) (texts : List String) :
    gr.collect g false ("--" :: texts) = gr.collect g true texts := by
  rw [collect, read, if_neg Bool.false_ne_true, if_neg (plain.no_subcommand g "--"), if_pos rfl]
  rfl

theorem collect_cons (g : Given) {arg : String} (goesOn : arg ≠ "--") (args : List String) :
    gr.collect g false (arg :: args) =
      gr.argument g arg >>= fun next => gr.collect next false args := by
  rw [collect, read, if_neg Bool.false_ne_true, if_neg (plain.no_subcommand g arg),
    if_neg goesOn, bind_assoc]
  rfl

theorem find?_of_mem {s : Switch} (declared : s ∈ gr.switches) :
    gr.switches.find? (·.name == s.name) = some s := by
  cases found : gr.switches.find? (·.name == s.name) with
  | none =>
      have different := List.find?_eq_none.mp found s declared
      exact absurd (beq_self_eq_true _) different
  | some other =>
      have same := List.find?_some found
      have listed := List.mem_of_find?_eq_some found
      rw [List.inj_on_of_nodup_map plain.distinct listed declared (beq_iff_eq.mp same)]

/-- A name by itself begins an option. -/
theorem argument_apart {s : Switch} (declared : s ∈ gr.switches) (g : Given) :
    gr.argument g ("--" ++ s.name) = g.begin s := by
  have text : ("--" ++ s.name).toList = '-' :: '-' :: s.name.toList := by
    simp
  rw [argument_of_name (plain.plain s declared) text, long, String.ofList_toList,
    if_neg (plain.ne_help s declared), plain.find?_of_mem declared]
  dsimp only
  rw [if_neg (by rw [plain.repeatable s declared]; exact nofun)]

/-- A name with a value attached completes one. -/
theorem argument_attached {s : Switch} (declared : s ∈ gr.switches) (g : Given) (value : String) :
    gr.argument g ("--" ++ s.name ++ "=" ++ value) = g.complete s value := by
  have text : ("--" ++ s.name ++ "=" ++ value).toList =
      '-' :: '-' :: (s.name.toList ++ '=' :: value.toList) := by
    simp
  rw [argument_of_assignment (plain.plain s declared) text, long, String.ofList_toList,
    String.ofList_toList, if_neg (plain.ne_help s declared), plain.find?_of_mem declared]
  dsimp only
  rw [if_neg (by rw [plain.repeatable s declared]; exact nofun)]

/-- An argument without a name is taken unless there has been one. -/
theorem positional_of_settle (settled : g.settle = .ok more) (literally : Bool) (arg : String) :
    gr.positional g literally arg = more.give (.url arg) := by
  rw [positional, plain.takesUrl, plain.subcommands, Given.give, (Given.settle_eq_ok settled).2,
    settled]
  rfl

theorem apart_ne_end {s : Switch} (declared : s ∈ gr.switches) : "--" ++ s.name ≠ "--" := by
  intro same
  have texts := congrArg String.toList same
  simp [plain.ne_empty s declared] at texts

theorem collect_literally_eq (settled : g.settle = .ok more) (texts : List String) :
    gr.collect g true texts = (texts.map Item.url).foldlM Given.give more := by
  induction texts generalizing g more with
  | nil => exact settled
  | cons text texts inductionHypothesis =>
      rw [collect_literally, plain.positional_of_settle settled, List.map_cons]
      exact give_collect (Given.settle_eq_ok settled).1 _ fun next => inductionHypothesis

/-- The items that arguments spell are taken one after the other. -/
theorem collect_of_spells {args : List String} {items : List Item} (spells : Spells gr args items)
    (settled : g.settle = .ok more) : gr.collect g false args = items.foldlM Given.give more := by
  have idle := (Given.settle_eq_ok settled).1
  induction spells generalizing g more with
  | done => exact settled
  | @attached s value args items declared later inductionHypothesis =>
      rw [plain.collect_cons g (attached_ne_end s.name value), plain.argument_attached declared,
        Given.complete_of_settle settled (plain.repeatable s declared)]
      exact give_collect idle _ fun next ready =>
        inductionHypothesis ready (Given.settle_eq_ok ready).1
  | @apart s value args items declared bare later inductionHypothesis =>
      rw [plain.collect_cons g (plain.apart_ne_end declared), plain.argument_apart declared,
        Given.begin_of_settle settled]
      change gr.collect { more with pending := some (s, none) } false (value :: args) = _
      rw [plain.collect_cons _ bare.ne_end, argument_of_bare bare]
      have next := Given.settle_of_value idle (plain.repeatable s declared) value
      exact inductionHypothesis next idle
  | @bare text args items bare later inductionHypothesis =>
      have ready : gr.argument g text = gr.positional g false text := by
        rw [argument_of_bare bare]
        split
        · exact absurd ‹_› (Given.not_awaiting settled _)
        · rfl
      rw [plain.collect_cons g bare.ne_end, ready, plain.positional_of_settle settled]
      exact give_collect idle _ fun next ready =>
        inductionHypothesis ready (Given.settle_eq_ok ready).1
  | ended texts =>
      rw [plain.collect_ended]
      exact plain.collect_literally_eq settled texts

/-! ## What is accepted is spelled -/

theorem short_ne_ok (g : Given) (letter : Char) (attached : List Char) :
    gr.short g letter attached ≠ .ok more := by
  have unknown : gr.switches.find? (·.letter == some letter) = none := by
    rw [List.find?_eq_none]
    intro s declared
    rw [plain.letterless s declared]
    exact Bool.false_ne_true
  intro accepted
  unfold short at accepted
  by_cases help : letter = 'h'
  · rw [if_pos help, bind_eq_ok] at accepted
    rcases accepted with ⟨_, -, refused⟩
    cases refused
  · rw [if_neg help, unknown] at accepted
    cases accepted

/-- A name that is accepted is that of an option, with its value or without. -/
theorem long_eq_ok {name : String} {value : Option String}
    (accepted : gr.long g name value = .ok more) :
    ∃ s ∈ gr.switches, s.name = name ∧
      value.elim (g.begin s) (fun value => g.complete s value) = .ok more := by
  unfold long at accepted
  by_cases help : name = "help"
  · rw [if_pos help] at accepted
    cases value with
    | some value => cases accepted
    | none =>
        rcases bind_eq_ok.mp accepted with ⟨_, -, refused⟩
        cases refused
  · rw [if_neg help] at accepted
    cases found : gr.switches.find? (·.name == name) with
    | none =>
        rw [found] at accepted
        cases accepted
    | some s =>
        have declared := List.mem_of_find?_eq_some found
        have same := List.find?_some found
        have valued : ¬ s.arity = .switch := by
          rw [plain.repeatable s declared]
          exact nofun
        rw [found] at accepted
        refine ⟨s, declared, beq_iff_eq.mp same, ?_⟩
        cases value with
        | none =>
            dsimp only at accepted
            rwa [if_neg valued] at accepted
        | some value =>
            dsimp only at accepted
            rwa [if_neg valued] at accepted

/-- An argument that is accepted and not bare spells an option, as a whole or up to its value. -/
theorem argument_eq_ok {arg : String} (accepted : gr.argument g arg = .ok more) :
    IsBare arg ∨ ∃ s ∈ gr.switches,
      (arg = "--" ++ s.name ∧ g.begin s = .ok more) ∨
      ∃ value, arg = "--" ++ s.name ++ "=" ++ value ∧ g.complete s value = .ok more := by
  by_cases bare : IsBare arg
  · exact Or.inl bare
  · right
    rcases not_isBare_iff.mp bare with ⟨letter, attached, text⟩
    by_cases hyphen : letter = '-'
    · subst hyphen
      rcases Boundary.exists_append '=' attached with
        ⟨name, rest, rfl, plainName, rfl | ⟨value, rfl⟩⟩
      · rw [List.append_nil] at text
        rw [argument_of_name plainName text] at accepted
        rcases plain.long_eq_ok accepted with ⟨s, declared, named, begins⟩
        refine ⟨s, declared, Or.inl ⟨?_, begins⟩⟩
        apply String.toList_inj.mp
        simp [text, named]
      · rw [argument_of_assignment plainName text] at accepted
        rcases plain.long_eq_ok accepted with ⟨s, declared, named, completes⟩
        refine ⟨s, declared, Or.inr ⟨String.ofList value, ?_, completes⟩⟩
        apply String.toList_inj.mp
        simp [text, named]
    · rw [argument_of_hyphen hyphen text] at accepted
      exact absurd accepted (plain.short_ne_ok g letter attached)

theorem positional_eq_ok {literally : Bool} {arg : String}
    (taken : gr.positional g literally arg = .ok more) :
    (∃ settled, g.settle = .ok settled) ∧ more.pending = none := by
  cases settles : g.settle with
  | error fault =>
      rw [positional, plain.subcommands, settles] at taken
      split at taken
      · cases taken
      · cases taken
  | ok settled =>
      rw [plain.positional_of_settle settles] at taken
      exact ⟨⟨settled, rfl⟩, (Given.pending_of_give taken).trans (Given.settle_eq_ok settles).1⟩

/-- Behind `--` there is no value for an option that was begun. -/
theorem not_awaiting_of_literally {texts : List String}
    (accepted : gr.collect g true texts = .ok more) (s : Switch) :
    g.pending ≠ some (s, none) := by
  cases texts with
  | nil => exact Given.not_awaiting accepted s
  | cons text texts =>
      rw [collect_literally, bind_eq_ok] at accepted
      rcases accepted with ⟨next, taken, -⟩
      rcases (plain.positional_eq_ok taken).1 with ⟨settled, settles⟩
      exact Given.not_awaiting settles s

/-- Arguments that are accepted spell items, behind the value of an option if one was begun. -/
theorem exists_spells {args : List String} (accepted : gr.collect g false args = .ok more) :
    (g.awaitsValue = false → ∃ items, Spells gr args items) ∧
      ∀ s, g.pending = some (s, none) →
        ∃ value rest items, args = value :: rest ∧ IsBare value ∧ Spells gr rest items := by
  -- Both are proved at once, since the name of an option and its value are read in two steps.
  induction args generalizing g with
  | nil =>
      have ready := Given.not_awaiting accepted
      exact ⟨fun _ => ⟨[], .done⟩, fun s awaiting => absurd awaiting (ready s)⟩
  | cons arg args inductionHypothesis =>
      by_cases ends : arg = "--"
      · subst ends
        rw [plain.collect_ended] at accepted
        have ready := plain.not_awaiting_of_literally accepted
        exact ⟨fun _ => ⟨_, .ended args⟩, fun s awaiting => absurd awaiting (ready s)⟩
      · rw [plain.collect_cons g ends, bind_eq_ok] at accepted
        rcases accepted with ⟨next, taken, goesOn⟩
        rcases inductionHypothesis goesOn with ⟨spelled, valued⟩
        rcases plain.argument_eq_ok taken with
          bare | ⟨s, declared, ⟨rfl, begins⟩ | ⟨value, rfl, completes⟩⟩
        · rw [argument_of_bare bare] at taken
          split at taken
          · rename_i s awaiting
            cases taken
            rcases spelled rfl with ⟨items, later⟩
            refine ⟨?_, fun _ _ => ⟨arg, args, items, rfl, bare, later⟩⟩
            rw [Given.awaitsValue, awaiting]
            exact nofun
          · rename_i ready
            refine ⟨?_, fun s awaiting => absurd awaiting (ready s)⟩
            intro _
            have idle := (plain.positional_eq_ok taken).2
            rcases spelled (Given.awaitsValue_of_none idle) with ⟨items, later⟩
            exact ⟨_, .bare bare later⟩
        · rcases Given.begin_eq_ok begins with ⟨⟨settled, settles⟩, begun⟩
          refine ⟨?_, fun s awaiting => absurd awaiting (Given.not_awaiting settles s)⟩
          intro _
          rcases valued s begun with ⟨value, rest, items, rfl, bare, later⟩
          exact ⟨_, .apart declared bare later⟩
        · rcases Given.complete_eq_ok completes with ⟨⟨settled, settles⟩, idle⟩
          refine ⟨?_, fun s awaiting => absurd awaiting (Given.not_awaiting settles s)⟩
          intro _
          rcases spelled (Given.awaitsValue_of_none idle) with ⟨items, later⟩
          exact ⟨_, .attached declared later⟩

end IsPlain

end Grammar

/-! ## Rewriting commands -/

theorem readAction_replace (args : List String) :
    readAction "replace" args =
      (commandGrammar "replace").collect .empty false args >>= fun g =>
        match g.url with
        | some url => .ok (.replace url (g.all "param") (g.all "query") (g.all "unset"))
        | none => .error .missingArgument := by
  rw [Grammar.collect, bind_assoc]
  rfl

/-- What items tell a rewriting: the one URL among them, and the values of each option in their
order. -/
theorem readAction_of_spells {args : List String} {items : List Item} {action : Action}
    (spells : Spells (commandGrammar "replace") args items)
    (accepted : readAction "replace" args = .ok action) :
    ∃ url, urlsOf items = [url] ∧
      action = .replace url (valuesOf "param" items) (valuesOf "query" items)
        (valuesOf "unset" items) := by
  have settled : Given.empty.settle = .ok .empty := rfl
  rw [readAction_replace, bind_eq_ok] at accepted
  rcases accepted with ⟨g, collected, acted⟩
  rw [isPlain_replace.collect_of_spells spells settled] at collected
  rcases Given.foldlM_give collected with ⟨values, urls⟩
  cases found : g.url with
  | none =>
      rw [found] at acted
      cases acted
  | some url =>
      rw [found] at acted urls
      cases acted
      refine ⟨url, urls.symm, ?_⟩
      rw [values, values, values]
      rfl

/-- What follows the command of a rewriting is accepted exactly if it spells items with one URL
among them. -/
theorem readAction_replace_eq_ok_iff {args : List String} :
    (∃ action, readAction "replace" args = .ok action) ↔
      ∃ items url, Spells (commandGrammar "replace") args items ∧ urlsOf items = [url] := by
  constructor
  · rintro ⟨action, accepted⟩
    have collected := accepted
    rw [readAction_replace, bind_eq_ok] at collected
    rcases collected with ⟨g, collected, -⟩
    rcases (isPlain_replace.exists_spells collected).1 rfl with ⟨items, spells⟩
    rcases readAction_of_spells spells accepted with ⟨url, single, -⟩
    exact ⟨items, url, spells, single⟩
  · rintro ⟨items, url, spells, single⟩
    have settled : Given.empty.settle = .ok .empty := rfl
    have one : (Given.empty.url.toList ++ urlsOf items).length ≤ 1 := by
      rw [single]
      exact Nat.le_refl _
    rcases Given.exists_foldlM_give one with ⟨g, given⟩
    have urls := (Given.foldlM_give given).2
    rw [readAction_replace, isPlain_replace.collect_of_spells spells settled, given]
    rw [single] at urls
    cases found : g.url with
    | none =>
        rw [found] at urls
        cases urls
    | some other =>
        refine ⟨.replace other (g.all "param") (g.all "query") (g.all "unset"), ?_⟩
        dsimp only [bind, Except.bind]
        rw [found]

/-- An accepted command line is one of a command whose action it holds. -/
theorem readInvocation_eq_ok {args : List String} {i : Invocation}
    (accepted : readInvocation args = .ok i) :
    ∃ g command rest, mainGrammar.read .empty false args = .ok (g, some (command, rest)) ∧
      readAction command rest = .ok i.action := by
  rw [readInvocation, bind_eq_ok] at accepted
  rcases accepted with ⟨⟨g, command⟩, front, accepted⟩
  cases command with
  | none =>
      rcases bind_eq_ok.mp accepted with ⟨_, -, refused⟩
      cases refused
  | some command =>
      rcases command with ⟨command, rest⟩
      dsimp only at accepted
      split at accepted
      · cases accepted
      · rw [bind_eq_ok] at accepted
        rcases accepted with ⟨action, acted, accepted⟩
        rw [bind_eq_ok] at accepted
        rcases accepted with ⟨settled, -, accepted⟩
        cases accepted
        exact ⟨g, command, rest, front, acted⟩

theorem eq_replace_of_readAction {command url : String} {args params queries unset : List String}
    (acted : readAction command args = .ok (.replace url params queries unset)) :
    command = "replace" := by
  rw [readAction, bind_eq_ok] at acted
  rcases acted with ⟨given, -, acted⟩
  rw [bind_eq_ok] at acted
  rcases acted with ⟨settled, -, acted⟩
  split at acted
  · split at acted
    · cases acted
    · cases acted
  · split at acted
    · cases acted
    · split at acted
      · assumption
      · cases acted

/-- A command line that asks for a rewriting, and the items that it spells behind that. -/
def Replaces (args : List String) (items : List Item) : Prop :=
  ∃ g rest, mainGrammar.read .empty false args = .ok (g, some ("replace", rest)) ∧
    Spells (commandGrammar "replace") rest items

section Replaces

variable {args : List String} {i : Invocation}

theorem action_of_replaces {items : List Item} (accepted : readInvocation args = .ok i)
    (replaces : Replaces args items) :
    ∃ url, urlsOf items = [url] ∧
      i.action = .replace url (valuesOf "param" items) (valuesOf "query" items)
        (valuesOf "unset" items) := by
  rcases replaces with ⟨g, rest, front, spells⟩
  rcases readInvocation_eq_ok accepted with ⟨other, command, args, frontToo, acted⟩
  rw [front] at frontToo
  cases frontToo
  exact readAction_of_spells spells acted

theorem exists_replaces (accepted : readInvocation args = .ok i) {url : String}
    {params queries unset : List String} (action : i.action = .replace url params queries unset) :
    ∃ items, Replaces args items := by
  rcases readInvocation_eq_ok accepted with ⟨g, command, rest, front, acted⟩
  rw [action] at acted
  rcases eq_replace_of_readAction acted with rfl
  rcases readAction_replace_eq_ok_iff.mp ⟨_, acted⟩ with ⟨items, _, spells, -⟩
  exact ⟨items, g, rest, front, spells⟩

end Replaces

end CommandLine
end PathTemplate
