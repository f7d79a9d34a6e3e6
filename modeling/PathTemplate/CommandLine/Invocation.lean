import PathTemplate.CommandLine.Arguments

/-!
The commands of the program and what each is told.
-/

namespace PathTemplate
namespace CommandLine

/-- What the program is asked to do. -/
inductive Action where
  /-- Match a URL, as a whole or its leading segments. -/
  | matchUrl (url : String) (leading : Bool)
  /-- Build a URL from `NAME=VALUE` pairs. -/
  | format (params queries : List String)
  /-- Rewrite a URL by `NAME=VALUE` pairs and by names of parameters to drop. -/
  | replace (url : String) (params queries unset : List String)
  /-- List the templates of the configuration. -/
  | list
deriving DecidableEq, Repr

/-- A command line: the template to use, as a text or as the name of one in a configuration file,
and what to do with it. -/
structure Invocation where
  template : Option String
  config : Option String
  name : Option String
  action : Action
deriving DecidableEq, Repr

/-- Whether an invocation depends on a configuration file: to list it, or to find a template by name
where none is given as a text. -/
def Invocation.usesConfig (i : Invocation) : Bool :=
  i.action = .list || (i.template.isNone && i.name.isSome)

/-- The commands there are, `help` among them. -/
def commands : List String :=
  ["match", "format", "replace", "list", "help"]

/-- What stands in front of a command. -/
def mainGrammar : Grammar :=
  ⟨[⟨"template", some 't', .once⟩, ⟨"config", some 'c', .once⟩, ⟨"name", some 'n', .once⟩], false,
    commands⟩

def paramSwitch : Switch :=
  ⟨"param", none, .repeatable⟩

def querySwitch : Switch :=
  ⟨"query", none, .repeatable⟩

def commandGrammar (command : String) : Grammar :=
  if command = "match" then ⟨[⟨"prefix", none, .switch⟩], true, []⟩
  else if command = "format" then ⟨[paramSwitch, querySwitch], false, []⟩
  else if command = "replace" then
    ⟨[paramSwitch, querySwitch, ⟨"unset", none, .repeatable⟩], true, []⟩
  else ⟨[], false, []⟩

/-- Ask for help on a command, or in general; there are no commands of commands. -/
def helpOn : List String → UsageFault
  | [] => .helpRequested
  | [command] => if command ∈ commands then .helpRequested else .invalidSubcommand
  | _ => .invalidSubcommand

def readAction (command : String) (args : List String) : Except UsageFault Action := do
  let (g, _) ← (commandGrammar command).read .empty false args
  let g ← g.settle
  if command = "match" then
    match g.url with
    | some url => return .matchUrl url (g.get? "prefix").isSome
    | none => .error .missingArgument
  else if command = "format" then return .format (g.all "param") (g.all "query")
  else if command = "replace" then
    match g.url with
    | some url => return .replace url (g.all "param") (g.all "query") (g.all "unset")
    | none => .error .missingArgument
  else return .list

/-- Read a command line, given without the program's name. -/
def readInvocation (args : List String) : Except UsageFault Invocation := do
  let (g, command) ← mainGrammar.read .empty false args
  match command with
  | none => do
      let _ ← g.settle
      .error .missingSubcommand
  | some (command, rest) =>
      if command = "help" then .error (helpOn rest)
      else do
        let action ← readAction command rest
        let g ← g.settle
        return ⟨g.get? "template", g.get? "config", g.get? "name", action⟩

end CommandLine
end PathTemplate
