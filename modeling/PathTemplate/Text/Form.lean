import PathTemplate.Text.Percent

/-!
The `name=value&name=value` form of a search string.  Reading is lenient: empty pieces are passed
over, a piece without `=` has an empty value, `+` is a space, and no escape is refused.
-/

namespace PathTemplate
namespace Form

/-- The stretches of a text between occurrences of `sep`; there is one more of them than there are
occurrences. -/
def pieces (sep : Char) : List Char → List (List Char)
  | [] => [[]]
  | c :: rest =>
      if c = sep then [] :: pieces sep rest
      else
        match pieces sep rest with
        | [] => [[c]]
        | piece :: more => (c :: piece) :: more

/-- The text a written name or value stands for. -/
def decode (cs : List Char) : List Char :=
  Percent.decodeLenient (cs.map (fun c => if c = '+' then ' ' else c))

/-- The name and value of a piece, which is cut at its first `=`. -/
def pair (piece : List Char) : String × String :=
  (String.ofList (decode (piece.takeWhile (· ≠ '='))),
    String.ofList (decode ((piece.dropWhile (· ≠ '=')).drop 1)))

/-- The pairs of a search string, in order, repeated names included. -/
def parse (search : List Char) : List (String × String) :=
  ((pieces '&' search).filter (· ≠ [])).map pair

def write (name value : String) : List Char :=
  Percent.encode name.toList ++ '=' :: Percent.encode value.toList

end Form
end PathTemplate
