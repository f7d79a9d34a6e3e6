import PathTemplate.Url.Host
import PathTemplate.Url.Scheme

/-!
The part of a URL between two slashes and its path: perhaps a user's name and password, then the
host, and perhaps a port.  All that is wanted of it is where it ends, and whether it is well formed.
-/

namespace PathTemplate
namespace Url
namespace Authority

/-- Drop what stands before the last `@` of an authority, and tell whether that names anybody.  An
`@` with nothing on either side of it is refused. -/
def dropUser? (s : Scheme) (cs : List Char) : Option (Bool × List Char) :=
  let authority := cs.takeWhile (fun c => !s.endsAuthority c)
  if '@' ∈ authority then
    let user := ((authority.reverse.dropWhile (· ≠ '@')).drop 1).reverse
    let rest := cs.drop (user.length + 1)
    if user = [] && rest.head?.any s.endsAuthority then none
    else some (user ≠ [] && user ≠ [':'], rest)
  else some (false, cs)

/-- Cut a text where its host ends; a colon within brackets belongs to the host. -/
def takeHost (s : Scheme) (bracketed : Bool) : List Char → List Char × List Char
  | [] => ([], [])
  | c :: rest =>
      if (c == ':' && !bracketed) || s.endsAuthority c then ([], c :: rest)
      else
        let (host, after) := takeHost s (c == '[' || (bracketed && c != ']')) rest
        (c :: host, after)

/-- Drop a port, which is a colon and a number of 16 bits or nothing. -/
def dropPort? : List Char → Option (List Char)
  | ':' :: rest =>
      let digits := rest.takeWhile Char.isDigit
      let after := rest.dropWhile Char.isDigit
      if digits.foldl (fun n c => 10 * n + (c.toNat - 0x30)) 0 ≤ 65535 &&
          after.head?.all (fun c => c == '/' || c == '\\' || c == '?' || c == '#') then some after
      else none
  | rest => some rest

def isHost (s : Scheme) (hasUser hasPort : Bool) (host : List Char) : Bool :=
  if s.isSpecial then (Host.normalize? host).isSome
  else if host = [] then !hasUser && !hasPort
  else Host.isOpaque host

/-- What follows the authority at the start of a text. -/
def drop? (s : Scheme) (cs : List Char) : Option (List Char) :=
  match dropUser? s cs with
  | none => none
  | some (hasUser, rest) =>
      let (host, after) := takeHost s false rest
      if isHost s hasUser (after.head? == some ':') host then dropPort? after else none

end Authority
end Url
end PathTemplate
