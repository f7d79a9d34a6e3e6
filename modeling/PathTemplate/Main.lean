import PathTemplate.CommandLine.Run

/-!
The program: it reads its arguments and the configuration file they call for, writes what the
command gives, and tells by its exit code whether the command succeeded.
-/

namespace PathTemplate
namespace CommandLine

def fileMessage : FileFault → String
  | .notFound => "no such file"
  | .isADirectory => "it is a directory"
  | .notADirectory => "not a directory"
  | .invalidName => "its name is invalid"
  | .nameTooLong => "its name is too long"
  | .invalidText => "it is not UTF-8 text"
  | .other => "it cannot be read"

def causeMessage : Cause → String
  | .library e => e.message
  | .yaml => "it is not a list of template settings"
  | .file fault => fileMessage fault
  | .message text => text

/-- What is said about a failure: what was being done, from the outside in, and the cause. -/
def failureMessage (f : Failure) : String :=
  String.intercalate ": " (f.contexts ++ [causeMessage f.cause])

def usageMessage : UsageFault → String
  | .missingSubcommand => "a command is required: match, format, replace or list"
  | .helpRequested => "usage: [-t TEMPLATE | -c CONFIG -n NAME] match|format|replace|list ..."
  | .unknownArgument => "unexpected argument"
  | .invalidSubcommand => "unrecognized command"
  | .missingArgument => "a URL is required"
  | .conflict => "an option is given too often"
  | .missingValue => "an option lacks its value"
  | .needlessValue => "an option takes no value"

def readFile (path : String) : IO (Except FileFault String) := do
  try
    let bytes ← IO.FS.readBinFile path
    return (String.fromUTF8? bytes).elim (.error .invalidText) .ok
  catch
    | .noFileOrDirectory .. => return .error .notFound
    | _ => return .error .other

/-- Read the arguments, carry out the command, and give the exit code. -/
def runProgram (args : List String) : IO UInt32 := do
  match readInvocation args with
  | .error .helpRequested =>
      IO.println (usageMessage .helpRequested)
      return 0
  | .error fault =>
      IO.eprintln (usageMessage fault)
      return 2
  | .ok invocation =>
      let text ←
        if invocation.usesConfig then readFile (invocation.config.getD Registry.defaultFile)
        else pure (.error .other)
      let (result, output) := (execute (fun _ => text) invocation).after ""
      IO.print output
      match result with
      | .ok succeeded => return if succeeded then 0 else 1
      | .error f =>
          IO.eprintln ("Error: " ++ failureMessage f)
          return 1

end CommandLine
end PathTemplate

def main (args : List String) : IO UInt32 :=
  PathTemplate.CommandLine.runProgram args
