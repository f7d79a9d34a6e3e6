import PathTemplate.Text.Percent
import PathTemplate.Url.Scheme

/-!
Paths of absolute URLs.  A path is resolved segment by segment: a single dot stands for where it is,
two dots take the segment before them away, and every other segment is kept, with the characters
escaped that may not stand in a path.

Paths of files have drives: a letter and a colon, or a bar for the colon, in a segment of their own,
which two dots do not take away.
-/

namespace PathTemplate
namespace Url

/-- The bytes of a character as escapes, if it is outside printable ASCII or one of `escaped`; else
the character. -/
def escapeChar (escaped : List Char) (c : Char) : List Char :=
  if c.toNat < 0x20 || 0x7E < c.toNat || escaped.contains c then
    (Utf8.encodeChar c).flatMap Percent.escapeByte
  else [c]

namespace Path

/-- The printable characters that are escaped in a path. -/
def escaped : List Char :=
  " \"<>\x60#?\x7b\x7d".toList

def escape (segment : List Char) : List Char :=
  segment.flatMap (escapeChar escaped)

/-- The number of dots a segment stands for, where a dot may be written as an escape. -/
def dots? : List Char → Option Nat
  | [] => some 0
  | '.' :: rest => (dots? rest).map (· + 1)
  | '%' :: '2' :: c :: rest => if c = 'e' ∨ c = 'E' then (dots? rest).map (· + 1) else none
  | _ => none

/-- The segments of a text that begins after the slash of its first segment. -/
def segments (s : Scheme) : List Char → List (List Char)
  | [] => [[]]
  | c :: rest =>
      if s.isSlash c then [] :: segments s rest
      else
        match segments s rest with
        | [] => [[c]]
        | segment :: more => (c :: segment) :: more

def isDrive : List Char → Bool
  | [letter, mark] => letter.isAlpha && (mark == ':' || mark == '|')
  | _ => false

/-- Take the last segment away; `kept` holds the segments so far, last one first. -/
def dropLast (s : Scheme) : List (List Char) → List (List Char)
  | [] => []
  | segment :: kept => if s = .file && isDrive segment then segment :: kept else kept

/-- What the first segment of a file's path becomes: a drive is written with a colon. -/
def writeDrive (segment : List Char) : List Char :=
  match segment with
  | [letter, _] => if isDrive segment then [letter, ':'] else segment
  | _ => segment

/-- Keep a segment, in front of the segments so far, last one first. -/
def keep (s : Scheme) (kept : List (List Char)) (segment : List Char) : List (List Char) :=
  (if s = .file && kept.isEmpty then writeDrive (escape segment) else escape segment) :: kept

/-- Resolve segments, where `kept` holds those so far, last one first.  Dots at the very end leave
an empty segment, so that the path ends with a slash. -/
def resolve (s : Scheme) (kept : List (List Char)) : List (List Char) → List (List Char)
  | [] => kept.reverse
  | segment :: rest =>
      match dots? segment with
      | some 1 => if rest.isEmpty then ([] :: kept).reverse else resolve s kept rest
      | some 2 =>
          let shorter := dropLast s kept
          if rest.isEmpty then ([] :: shorter).reverse else resolve s shorter rest
      | _ => resolve s (keep s kept segment) rest

def write (segments : List (List Char)) : List Char :=
  segments.flatMap ('/' :: ·)

/-- The path of a text that begins after its first slash.  Slashes at the start of a file's path are
one slash. -/
def read (s : Scheme) (cs : List Char) : List Char :=
  let path := write (resolve s [] (segments s cs))
  if s = .file then '/' :: path.dropWhile (· == '/') else path

end Path
end Url
end PathTemplate
