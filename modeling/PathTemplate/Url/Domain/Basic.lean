import PathTemplate.Text.Form
import PathTemplate.Text.Ranges
import PathTemplate.Url.Domain.AsciiForms
import PathTemplate.Url.Domain.Direction
import PathTemplate.Url.Domain.Disallowed
import PathTemplate.Url.Domain.Joining
import PathTemplate.Url.Domain.Mapped
import PathTemplate.Url.Domain.Marks
import PathTemplate.Url.Domain.Punycode

/-!
Domain names.  Nothing is made of a domain name but the decision whether it is one, so characters
outside ASCII are brought to their normal form only where that is ASCII; elsewhere it makes no
difference to the decision.
-/

namespace PathTemplate
namespace Url
namespace Domain

/-- The ASCII characters that a host may not contain. -/
def isForbidden (c : Char) : Bool :=
  c.toNat ≤ 0x20 || c.toNat == 0x7F || "%#/:<>?@[\\]^|".toList.contains c

/-- The ASCII text that a character outside ASCII stands for, if it stands for one. -/
def asciiForm? (c : Char) : Option (List Char) :=
  match asciiRuns.find? (fun r => r.1 ≤ c.toNat && c.toNat ≤ r.2.1) with
  | some r => some [Char.ofNat (r.2.2 + (c.toNat - r.1))]
  | none => ((asciiTexts.find? (fun t => t.1 == c.toNat)).map (·.2.toList))

/-- The normal form of a character, unless no domain name contains it. -/
def normalizeChar? (c : Char) : Option (List Char) :=
  if c.toNat < 0x80 then
    if isForbidden c then none else some [c.toLower]
  else if inRanges disallowedRanges c then none
  else if inRanges ignoredRanges c then some []
  else some ((asciiForm? c).getD [c])

def isAscii (cs : List Char) : Bool :=
  cs.all (·.toNat < 0x80)

/-- Whether a joiner or non-joiner, U+200D or U+200C, has an effect between what precedes it, last
character first, and what follows it. -/
def joinerAllowed (joiner : Char) (before after : List Char) : Bool :=
  let transparent := inRanges transparentRanges
  before.head?.any (inRanges viramaRanges) ||
    (joiner == '\u200C' &&
      (before.dropWhile transparent).head?.any (inRanges joinsNextRanges) &&
      (after.dropWhile transparent).head?.any (inRanges joinsPreviousRanges))

/-- Whether every joiner in a text has an effect, given the text before it, last character first. -/
def joinersAllowed (before : List Char) : List Char → Bool
  | [] => true
  | c :: rest =>
      (!(c == '\u200C' || c == '\u200D') || joinerAllowed c before rest) &&
        joinersAllowed (c :: before) rest

/-- Whether a text may be the readable form of a label. -/
def isLabelText (cs : List Char) : Bool :=
  !cs.head?.any (inRanges markRanges) && joinersAllowed [] cs

/-- The readable form of a label in normal form, if it is a label.  Behind `xn--` stands the written
form of a text that is not ASCII and has no other normal form. -/
def readLabel? (label : List Char) : Option (List Char) :=
  match label with
  | 'x' :: 'n' :: '-' :: '-' :: rest =>
      match Punycode.decode? rest with
      | none => none
      | some text =>
          if !isAscii text && !text.any (inRanges disallowedRanges) &&
              !text.any (inRanges mappedRanges) && isLabelText text then some text
          else none
  | _ => if isAscii label || isLabelText label then some label else none

/-- The writing directions that the rule for right-to-left text tells apart. -/
inductive Direction where
  | left
  | right
  | arabicNumber
  | europeanNumber
  | nonspacing
  | neutral
deriving DecidableEq, Repr

def direction (c : Char) : Direction :=
  if inRanges rightToLeftRanges c then .right
  else if inRanges arabicNumberRanges c then .arabicNumber
  else if inRanges europeanNumberRanges c then .europeanNumber
  else if inRanges nonspacingRanges c then .nonspacing
  else if inRanges neutralRanges c then .neutral
  else .left

/-- Whether a label is written in one direction throughout. -/
def hasDirection (label : List Char) : Bool :=
  let all := label.map direction
  let last := (all.reverse.dropWhile (· == .nonspacing)).head?
  match all with
  | [] => true
  | .left :: _ =>
      all.all (fun d => d != .right && d != .arabicNumber) &&
        (last == some .left || last == some .europeanNumber)
  | .right :: _ =>
      all.all (· != .left) &&
        (last == some .right || last == some .europeanNumber || last == some .arabicNumber) &&
        !(all.contains .europeanNumber && all.contains .arabicNumber)
  | _ => false

/-- The normal form of a domain name, where labels behind `xn--` stay as they are, if it is a domain
name.  With a right-to-left character anywhere, every label must have a direction. -/
def normalize? (cs : List Char) : Option (List Char) :=
  match cs.mapM normalizeChar? with
  | none => none
  | some chars =>
      let name := chars.flatten
      match (Form.pieces '.' name).mapM readLabel? with
      | none => none
      | some labels =>
          let rightToLeft := labels.any (fun l =>
            !isAscii l && l.any (fun c => direction c == .right || direction c == .arabicNumber))
          if rightToLeft && !labels.all hasDirection then none else some name

end Domain
end Url
end PathTemplate
