import PathTemplate.CommandLine.Invocation
import PathTemplate.Registry

/-!
Carrying out a command.  The template is chosen first, then the pairs are read, then the library is
asked; the first of these to fail decides the failure.  What a command writes is added to what has
been written, and a failure takes nothing of that back.
-/

namespace PathTemplate
namespace CommandLine

/-- What a command wrote, and whether it succeeded; a URL that does not match is no failure. -/
structure Outcome where
  succeeded : Bool
  output : String
deriving DecidableEq, Repr

def refuse {α : Type} (message : String) : Except Failure α :=
  .error (.ofCause (.message message))

def ofLibrary {α : Type} (result : Except Error α) : Except Failure α :=
  result.mapError (fun e => .ofCause (.library e))

/-- The route to use: that of the given template, or the named one of the configuration. -/
def chooseRoute (read : String → Except FileFault String) (i : Invocation) :
    Except Failure Route :=
  match i.template, i.name with
  | some template, _ => ofLibrary (Route.compile template false)
  | none, none => refuse "Either --template or --name must be given"
  | none, some name => do
      let registry ← Registry.load read i.config
      match registry.get? name with
      | some route => return route
      | none => refuse ("No template named '" ++ name ++ "'")

/-- Cut a pair at its first equals sign. -/
def readPair (text : String) : Except Failure (String × String) :=
  let name := text.toList.takeWhile (· ≠ '=')
  match text.toList.dropWhile (· ≠ '=') with
  | [] => refuse ("Expected KEY=VALUE but got '" ++ text ++ "'")
  | _ :: value =>
      if name = [] then refuse ("Empty key in '" ++ text ++ "'")
      else .ok (String.ofList name, String.ofList value)

def readParams (pairs : List String) : Except Failure Params := do
  return Params.ofPairs (← pairs.mapM readPair)

/-- A query from pairs, if there are any. -/
def readQuery (pairs : List String) : Except Failure (Option Query) := do
  let entries ← pairs.mapM readPair
  return if pairs = [] then none else some (OrderedMap.ofList entries)

def listLine (e : String × Entry) : String :=
  e.1 ++ "\t" ++ e.2.route.source ++ e.2.description.elim "" ("\t" ++ ·) ++ "\n"

/-- A command that is being carried out: it may fail, and what it has written by then stays. -/
abbrev Execution :=
  ExceptT Failure (StateM String)

namespace Execution

/-- A result that is arrived at without writing. -/
def ofResult {α : Type} (result : Except Failure α) : Execution α :=
  ExceptT.mk (pure result)

def write (text : String) : Execution Unit :=
  modify (· ++ text)

/-- How a command ends, and all that has been written then, given what had been written before. -/
def after {α : Type} (e : Execution α) (written : String) : Except Failure α × String :=
  e.run.run written

end Execution

/-- Carry out a command, given how files are read, and tell whether it succeeded. -/
def execute (read : String → Except FileFault String) (i : Invocation) : Execution Bool :=
  match i.action with
  | .matchUrl url leading => do
      let route ← .ofResult (chooseRoute read i)
      let result := route.matchUrl url (if leading then .leading else .whole)
      .write (result.toJson.toPretty ++ "\n")
      return result.isMatch
  | .format params queries => do
      let route ← .ofResult (chooseRoute read i)
      let values ← .ofResult (readParams params)
      let query ← .ofResult (readQuery queries)
      let url ← .ofResult (ofLibrary (route.format values query))
      .write (url ++ "\n")
      return true
  | .replace url params queries unset => do
      let route ← .ofResult (chooseRoute read i)
      let values ← .ofResult (readParams params)
      let query ← .ofResult (readQuery queries)
      match ← .ofResult (ofLibrary (route.replace (Location.parse url)
          (some (unset.foldl Params.unset values)) query)) with
      | some url => do
          .write (url ++ "\n")
          return true
      | none => return false
  | .list => do
      let registry ← .ofResult (Registry.load read i.config)
      registry.entries.forM (fun e => .write (listLine e))
      return true

/-- What a command comes to that nothing has been written before. -/
def run (read : String → Except FileFault String) (i : Invocation) : Except Failure Outcome :=
  match (execute read i).after "" with
  | (.ok succeeded, output) => .ok ⟨succeeded, output⟩
  | (.error f, _) => .error f

end CommandLine
end PathTemplate
