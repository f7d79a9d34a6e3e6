/-!
Reading command-line arguments.  A grammar tells the options of a command, whether it takes an
argument without a name, and its subcommands.  An option's value is the rest of its argument or the
argument after it; `--` ends the options.
-/

namespace PathTemplate
namespace CommandLine

/-- Why arguments were refused, or not acted on. -/
inductive UsageFault where
  | missingSubcommand
  | helpRequested
  | unknownArgument
  | invalidSubcommand
  | missingArgument
  /-- An option was given more often than it may be. -/
  | conflict
  | missingValue
  /-- A switch was given a value. -/
  | needlessValue
deriving DecidableEq, Repr

/-- What an option takes. -/
inductive Arity where
  /-- No value; it may be given once. -/
  | switch
  /-- A value; it may be given once. -/
  | once
  /-- A value each time it is given. -/
  | repeatable
deriving DecidableEq, Repr

/-- An option: its name behind two hyphens, and perhaps a letter behind one. -/
structure Switch where
  name : String
  letter : Option Char
  arity : Arity
deriving DecidableEq, Repr

/-- What a command accepts. -/
structure Grammar where
  switches : List Switch
  takesUrl : Bool
  subcommands : List String

/-- What has been given so far: options with their values in order, the argument without a name, and
an option that was begun and is not complete, with its value if that has been given. -/
structure Given where
  values : List (String × String)
  url : Option String
  pending : Option (Switch × Option String)

namespace Given

def empty : Given :=
  ⟨[], none, none⟩

/-- Take an option with its value, unless it has been given too often. -/
def take (g : Given) (s : Switch) (value : String) : Except UsageFault Given :=
  if s.arity ≠ .repeatable && g.values.any (·.1 == s.name) then .error .conflict
  else .ok { g with values := g.values ++ [(s.name, value)] }

/-- Complete the option that was begun. -/
def settle (g : Given) : Except UsageFault Given :=
  match g.pending with
  | none => .ok g
  | some (_, none) => .error .missingValue
  | some (s, some value) => { g with pending := none }.take s value

/-- Whether the next argument is the value of an option. -/
def awaitsValue (g : Given) : Bool :=
  match g.pending with
  | some (_, none) => true
  | _ => false

/-- Begin an option that takes a value. -/
def begin (g : Given) (s : Switch) : Except UsageFault Given := do
  return { ← g.settle with pending := some (s, none) }

def complete (g : Given) (s : Switch) (value : String) : Except UsageFault Given := do
  (← g.settle).take s value

def all (g : Given) (name : String) : List String :=
  (g.values.filter (·.1 == name)).map Prod.snd

def get? (g : Given) (name : String) : Option String :=
  g.values.lookup name

end Given

namespace Grammar

/-- Read an option behind two hyphens, given its name and the value attached to it. -/
def long (gr : Grammar) (g : Given) (name : String) (value : Option String) :
    Except UsageFault Given :=
  if name = "help" then
    match value with
    | some _ => .error .needlessValue
    | none => do
        let _ ← g.settle
        .error .helpRequested
  else
    match gr.switches.find? (·.name == name), value with
    | none, _ => .error .unknownArgument
    | some s, none => if s.arity = .switch then g.complete s "" else g.begin s
    | some s, some v => if s.arity = .switch then .error .needlessValue else g.complete s v

/-- Read an option behind one hyphen: its letter, and what is attached to that, with or without an
equals sign. -/
def short (gr : Grammar) (g : Given) (letter : Char) (attached : List Char) :
    Except UsageFault Given :=
  if letter = 'h' then do
    let _ ← g.settle
    .error .helpRequested
  else
    match gr.switches.find? (·.letter == some letter), attached with
    | none, _ => .error .unknownArgument
    | some s, [] => g.begin s
    | some s, '=' :: value => g.complete s (String.ofList value)
    | some s, value => g.complete s (String.ofList value)

def positional (gr : Grammar) (g : Given) (literally : Bool) (arg : String) :
    Except UsageFault Given :=
  if gr.takesUrl && g.url.isNone then do
    return { ← g.settle with url := some arg }
  else if gr.subcommands.isEmpty || (literally && gr.subcommands.contains arg) then
    .error .unknownArgument
  else .error .invalidSubcommand

/-- Read one argument while options are recognized. -/
def argument (gr : Grammar) (g : Given) (arg : String) : Except UsageFault Given :=
  match arg.toList with
  | '-' :: '-' :: rest =>
      let name := String.ofList (rest.takeWhile (· ≠ '='))
      match rest.dropWhile (· ≠ '=') with
      | [] => gr.long g name none
      | _ :: value => gr.long g name (some (String.ofList value))
  | '-' :: letter :: attached => gr.short g letter attached
  | _ =>
      match g.pending with
      | some (s, none) => .ok { g with pending := some (s, some arg) }
      | _ => gr.positional g false arg

/-- Read arguments up to their end or to a subcommand, which is given with those behind it.  After
`--` there are no options and no subcommands any more. -/
def read (gr : Grammar) (g : Given) (literally : Bool) :
    List String → Except UsageFault (Given × Option (String × List String))
  | [] => .ok (g, none)
  | arg :: rest =>
      if literally then do
        gr.read (← gr.positional g true arg) true rest
      else if !g.awaitsValue && gr.subcommands.contains arg then .ok (g, some (arg, rest))
      else if arg = "--" then gr.read g true rest
      else do
        gr.read (← gr.argument g arg) false rest

end Grammar
end CommandLine
end PathTemplate
