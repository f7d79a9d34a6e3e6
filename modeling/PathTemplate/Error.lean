/-!
What can go wrong with a template or with the values given to it.  Causes are data; every wording is
in one place, so that a message is a function of its cause.
-/

namespace PathTemplate

/-- What is wrong with the text of a template.  Positions count UTF-8 bytes. -/
inductive TemplateFault where
  /-- The text is empty. -/
  | undefined
  /-- A backslash has nothing after it; `position` is the length of the text. -/
  | danglingEscape (position : Nat)
  /-- A name is declared a second time; `position` is just after that declaration. -/
  | repeatedName (name : String) (position : Nat)
deriving DecidableEq, Repr

namespace TemplateFault

def detail : TemplateFault → String
  | undefined => "URL template is not defined"
  | danglingEscape position => "Unexpected end of input at position " ++ toString position
  | repeatedName name position =>
      "Duplicate parameter '" ++ name ++ "' at position " ++ toString position

end TemplateFault

/-- The kinds of failure a caller can tell apart. -/
inductive ErrorKind where
  /-- The template could not be read. -/
  | invalidTemplate
  /-- A required parameter had no value. -/
  | missingParameter
  /-- The matching pattern was refused. -/
  | pattern
deriving DecidableEq, Repr

namespace ErrorKind

/-- The full message of a failure of this kind with the given detail. -/
def describe (kind : ErrorKind) (detail : String) : String :=
  match kind with
  | invalidTemplate => "Invalid URL template: " ++ detail
  | missingParameter => "Missing value for required parameter: " ++ detail
  | pattern => "Pattern error: " ++ detail

end ErrorKind

/-- A failure of the library, by cause. -/
inductive Error where
  /-- The template is faulty. -/
  | invalidTemplate (fault : TemplateFault)
  /-- The required parameter `name` has no non-empty value. -/
  | missingParameter (name : String)
  /-- The pattern of a template is refused, for the reason that the matcher gives.  The matcher of
  this library refuses none; this is the failure of one that limits the size of patterns. -/
  | pattern (reason : String)
deriving DecidableEq, Repr

namespace Error

def kind : Error → ErrorKind
  | invalidTemplate _ => .invalidTemplate
  | missingParameter _ => .missingParameter
  | pattern _ => .pattern

/-- What the message of a failure is about: the fault's wording, the parameter's name, or the
reason of the matcher. -/
def detail : Error → String
  | invalidTemplate fault => fault.detail
  | missingParameter name => name
  | pattern reason => reason

def message (e : Error) : String :=
  e.kind.describe e.detail

/-- The message for taking the match out of a result that holds none. -/
def notMatched : String :=
  "the URL is not matched"

end Error
end PathTemplate
