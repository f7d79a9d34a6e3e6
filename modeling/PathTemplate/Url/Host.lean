import PathTemplate.Url.Domain.Basic
import PathTemplate.Url.Ipv4
import PathTemplate.Url.Ipv6

/-!
Hosts.  The host of a URL of the web is an address in brackets, a dotted address, or a domain name,
any of which may be percent-encoded; the host of any other URL is an address in brackets or a text
without certain characters.
-/

namespace PathTemplate
namespace Url
namespace Host

def isBracketed (cs : List Char) : Bool :=
  cs.getLast? == some ']' && Ipv6.isValid (cs.drop 1).dropLast

/-- The normal form of the host of a URL of the web, if it is one. -/
def normalize? (cs : List Char) : Option (List Char) :=
  if cs.head? = some '[' then
    if isBracketed cs then some cs else none
  else
    match (Utf8.decode? (Percent.lenientBytes cs)).bind Domain.normalize? with
    | none => none
    | some [] => none
    | some name => if Ipv4.isMeant name && !Ipv4.isValid name then none else some name

/-- The characters that a host may not contain in a URL that is not of the web. -/
def isForbiddenOpaque (c : Char) : Bool :=
  "\x00\t\n\r #/:<>?@[\\]^|".toList.contains c

/-- Whether a text is the host of a URL that is not of the web; it may be empty. -/
def isOpaque (cs : List Char) : Bool :=
  if cs.head? = some '[' then isBracketed cs else !cs.any isForbiddenOpaque

end Host
end Url
end PathTemplate
