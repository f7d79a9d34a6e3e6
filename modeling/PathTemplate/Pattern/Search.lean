import PathTemplate.Pattern.Token
import PathTemplate.Text.CaseFold

/-!
Matching a sequence of steps against a path.  `search` says what the answer is: an optional value
is taken where it can be, every value is as short as it can be, and earlier steps have precedence
over later ones.  `captures?` finds that answer without trying a suffix of the path twice for the
same step: it works from the last step to the first and keeps, for each step, the answers at all
suffixes in a row.  `captures?_eq_search` says that the two agree.
-/

namespace PathTemplate
namespace Token

/-- What the values of a match captured, in order; an optional value left out captures nothing. -/
abbrev Captures := List (Option (List Char))

/-- Put a character in front of the first captured value. -/
def extend (c : Char) : Captures → Captures
  | some v :: rest => some (c :: v) :: rest
  | captures => captures

def searchChar (fits : Char → Bool) (next : List Char → Option Captures) :
    List Char → Option Captures
  | [] => none
  | c :: rest => if fits c then next rest else none

/-- Match a value and go on, with as short a value as there is. -/
def searchValue (admitted : Char → Bool) (next : List Char → Option Captures) :
    List Char → Option Captures
  | [] => none
  | c :: rest =>
      if admitted c then
        match next rest with
        | some captures => some (some [c] :: captures)
        | none => (searchValue admitted next rest).map (extend c)
      else none

/-- Match an optional value with its separator and go on, or else go on without them. -/
def searchOptional (separator : Option (Char → Bool)) (admitted : Char → Bool)
    (next : List Char → Option Captures) (path : List Char) : Option Captures :=
  let taken :=
    match separator with
    | none => searchValue admitted next path
    | some fits => searchChar fits (searchValue admitted next) path
  match taken with
  | some captures => some captures
  | none => (next path).map (none :: ·)

/-- The preferred match of a sequence of steps, where `agrees` compares a character of the steps
with one of the path, and `ends` holds of what may be left over. -/
def search (agrees : Char → Char → Bool) (ends : List Char → Bool) :
    List Token → List Char → Option Captures
  | [], path => if ends path then some [] else none
  | .char c :: rest, path => searchChar (agrees c) (search agrees ends rest) path
  | .value excludesDot :: rest, path =>
      searchValue (admits excludesDot) (search agrees ends rest) path
  | .optionalValue separator excludesDot :: rest, path =>
      searchOptional (separator.map agrees) (admits excludesDot) (search agrees ends rest) path

/-- The answers of a search at every suffix of a path, the whole path first. -/
def row (f : List Char → Option Captures) : List Char → List (Option Captures)
  | [] => [f []]
  | c :: rest => f (c :: rest) :: row f rest

/-- The answer at the longest suffix of a row. -/
def first (answers : List (Option Captures)) : Option Captures :=
  answers.head?.join

/-- The row of `searchChar`, from the row of what follows. -/
def charRow (fits : Char → Bool) : List Char → List (Option Captures) → List (Option Captures)
  | [], _ => [none]
  | c :: rest, next =>
      (if fits c then first next.tail else none) :: charRow fits rest next.tail

def valueRow (admitted : Char → Bool) :
    List Char → List (Option Captures) → List (Option Captures)
  | [], _ => [none]
  | c :: rest, next =>
      let below := valueRow admitted rest next.tail
      let here :=
        if admitted c then
          match first next.tail with
          | some captures => some (some [c] :: captures)
          | none => (first below).map (extend c)
        else none
      here :: below

def optionalRow (separator : Option (Char → Bool)) (admitted : Char → Bool) (path : List Char)
    (next : List (Option Captures)) : List (Option Captures) :=
  let values := valueRow admitted path next
  let taken :=
    match separator with
    | none => values
    | some fits => charRow fits path values
  taken.zipWith
    (fun a b =>
      match a with
      | some captures => some captures
      | none => b.map (none :: ·))
    next

/-- The row of a sequence of steps. -/
def table (agrees : Char → Char → Bool) (ends : List Char → Bool) (path : List Char) :
    List Token → List (Option Captures)
  | [] => row (fun rest => if ends rest then some [] else none) path
  | .char c :: rest => charRow (agrees c) path (table agrees ends path rest)
  | .value excludesDot :: rest =>
      valueRow (admits excludesDot) path (table agrees ends path rest)
  | .optionalValue separator excludesDot :: rest =>
      optionalRow (separator.map agrees) (admits excludesDot) path (table agrees ends path rest)

/-- The preferred match of a sequence of steps.  Leading characters are compared directly; the rest
of the path is searched by rows. -/
def captures? (agrees : Char → Char → Bool) (ends : List Char → Bool) :
    List Token → List Char → Option Captures
  | .char c :: rest, path => searchChar (agrees c) (captures? agrees ends rest) path
  | tokens, path => first (table agrees ends path tokens)

@[simp] theorem first_row (f : List Char → Option Captures) (path : List Char) :
    first (row f path) = f path := by
  cases path <;> simp [row, first]

@[simp] theorem charRow_row (fits : Char → Bool) (f : List Char → Option Captures)
    (path : List Char) : charRow fits path (row f path) = row (searchChar fits f) path := by
  induction path with
  | nil => rfl
  | cons c rest inductionHypothesis => simp [charRow, row, searchChar, inductionHypothesis]

@[simp] theorem valueRow_row (admitted : Char → Bool) (f : List Char → Option Captures)
    (path : List Char) :
    valueRow admitted path (row f path) = row (searchValue admitted f) path := by
  induction path with
  | nil => rfl
  | cons c rest inductionHypothesis => simp [valueRow, row, searchValue, inductionHypothesis]

@[simp] theorem zipWith_row (g : Option Captures → Option Captures → Option Captures)
    (e f : List Char → Option Captures) (path : List Char) :
    (row e path).zipWith g (row f path) = row (fun rest => g (e rest) (f rest)) path := by
  induction path with
  | nil => rfl
  | cons c rest inductionHypothesis => simp [row, inductionHypothesis]

@[simp] theorem optionalRow_row (separator : Option (Char → Bool)) (admitted : Char → Bool)
    (f : List Char → Option Captures) (path : List Char) :
    optionalRow separator admitted path (row f path) =
      row (searchOptional separator admitted f) path := by
  cases separator with
  | none =>
      simp only [optionalRow, valueRow_row, zipWith_row]
      rfl
  | some fits =>
      simp only [optionalRow, valueRow_row, charRow_row, zipWith_row]
      rfl

@[simp] theorem table_eq_row (agrees : Char → Char → Bool) (ends : List Char → Bool)
    (path : List Char) (tokens : List Token) :
    table agrees ends path tokens = row (search agrees ends tokens) path := by
  induction tokens with
  | nil => rfl
  | cons token rest inductionHypothesis =>
      cases token <;> simp [table, inductionHypothesis] <;> rfl

/-- Searching by rows gives the preferred match. -/
theorem captures?_eq_search (agrees : Char → Char → Bool) (ends : List Char → Bool)
    (tokens : List Token) (path : List Char) :
    captures? agrees ends tokens path = search agrees ends tokens path := by
  induction tokens generalizing path with
  | nil => simp [captures?]
  | cons token rest inductionHypothesis =>
      cases token with
      | char c =>
          have alike : captures? agrees ends rest = search agrees ends rest :=
            funext inductionHypothesis
          simp only [captures?, search, alike]
      | value excludesDot => simp [captures?]
      | optionalValue separator excludesDot => simp [captures?]

end Token
end PathTemplate
