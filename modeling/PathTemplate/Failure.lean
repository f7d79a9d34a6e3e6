import PathTemplate.Error

/-!
Failures of configuration and of the command line.  A failure is a cause, and around it what was
being done when it arose, from the outside in.
-/

namespace PathTemplate

inductive FileFault where
  | notFound
  | isADirectory
  | notADirectory
  | invalidName
  | nameTooLong
  | invalidText
  | other
deriving DecidableEq, Repr

/-- What is at the bottom of a failure. -/
inductive Cause where
  /-- The library refused a template or its values. -/
  | library (e : Error)
  /-- A text is not YAML, or not the YAML of settings. -/
  | yaml
  /-- A file could not be read. -/
  | file (fault : FileFault)
  /-- Anything else, in words. -/
  | message (text : String)
deriving DecidableEq, Repr

/-- A cause and what it stopped, outermost first. -/
structure Failure where
  contexts : List String
  cause : Cause
deriving DecidableEq, Repr

namespace Failure

def ofCause (cause : Cause) : Failure :=
  ⟨[], cause⟩

def within (context : String) (f : Failure) : Failure :=
  { f with contexts := context :: f.contexts }

end Failure
end PathTemplate
