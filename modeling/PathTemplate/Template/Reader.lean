import PathTemplate.Template.Lexeme

/-!
Reading a template from its text.  A parameter takes over the slash or dot directly in front of it,
unless that character was escaped; the rest of the text in between becomes literal parts.
-/

namespace PathTemplate
namespace Template

/-- The characters a parameter takes over as its separator. -/
def isSeparator (c : Char) : Bool :=
  c == '/' || c == '.'

/-- The literal part for the characters held back so far, last one first; no part if there are
none, so no literal is empty. -/
def flush (held : List Char) : List Part :=
  match held with
  | [] => []
  | _ => [.literal (String.ofList held.reverse)]

/-- Build the parts, with the literal characters since the last parameter held back, last one first,
and `escaped` telling whether the last of them was escaped. -/
def assemble (held : List Char) (escaped : Bool) : List Lexeme → List Part
  | [] => flush held
  | .char c e :: rest => assemble (c :: held) e rest
  | .key k :: rest =>
      match held, escaped with
      | c :: before, false =>
          if isSeparator c then flush before ++ .param k (some c) :: assemble [] false rest
          else flush held ++ .param k none :: assemble [] false rest
      | _, _ => flush held ++ .param k none :: assemble [] false rest
  | .danglingEscape :: rest => assemble held escaped rest

/-- Read a template, or report the first fault of its text. -/
def read (text : String) : Except TemplateFault Template :=
  match Lexeme.scan text.toList with
  | [] => .error .undefined
  | lexemes =>
      match Lexeme.firstFault [] 0 lexemes with
      | some fault => .error fault
      | none => .ok ⟨assemble [] false lexemes⟩

def dropFinalSlash (cs : List Char) : List Char :=
  if cs.getLast? = some '/' then cs.dropLast else cs

/-- The text a template is kept under: a final slash is dropped unless it is all there is. -/
def normalize (text : String) : String :=
  match dropFinalSlash text.toList with
  | [] => text
  | cs => String.ofList cs

end Template
end PathTemplate
