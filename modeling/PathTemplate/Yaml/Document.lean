import PathTemplate.Yaml.Node

/-!
YAML documents.  A text holds at most one; what is empty or nothing but comments holds none.  Every
reference is linked to the last node before it that has the anchor it names.

Nodes with an anchor are numbered by the anchors seen before them, where an anchor given again does
not count anew, and a number taken twice goes to the later node.
-/

namespace PathTemplate
namespace Yaml

/-- A node with references by number. -/
abbrev Linked := Node Nat

/-- The anchors seen so far with their numbers, and the nodes with a number that are complete. -/
structure Anchors where
  numbers : List (List Char × Nat)
  nodes : List (Nat × Linked)

namespace Anchors

/-- The number that the next anchor gets. -/
def next (a : Anchors) : Nat :=
  a.numbers.length

/-- Begin a node with the given properties. -/
def enter (a : Anchors) (p : Properties) : Anchors :=
  match p.anchor with
  | none => a
  | some name =>
      ⟨(name, a.next) :: a.numbers.filter (·.1 ≠ name), a.nodes.filter (·.1 ≠ a.next)⟩

/-- Complete a node with the given properties, which was begun when `before` were known. -/
def leave (a before : Anchors) (p : Properties) (node : Linked) : Anchors :=
  if p.anchor.isNone || (a.nodes.lookup before.next).isSome then a
  else ⟨a.numbers, (before.next, node) :: a.nodes⟩

end Anchors

namespace Node

mutual

/-- Link the references of a node, from the anchors before it.  A reference to an anchor that has
not been seen is refused. -/
def link? (a : Anchors) : Written → Option (Linked × Anchors)
  | reference name => (a.numbers.lookup name).map (fun n => (reference n, a))
  | scalar p text style =>
      let node := scalar p text style
      some (node, (a.enter p).leave a p node)
  | sequence p items =>
      match linkItems? (a.enter p) items with
      | none => none
      | some (items, b) =>
          let node := sequence p items
          some (node, b.leave a p node)
  | mapping p pairs =>
      match linkPairs? (a.enter p) pairs with
      | none => none
      | some (pairs, b) =>
          let node := mapping p pairs
          some (node, b.leave a p node)

def linkItems? (a : Anchors) : List Written → Option (List Linked × Anchors)
  | [] => some ([], a)
  | item :: rest =>
      match link? a item with
      | none => none
      | some (item, a) => (linkItems? a rest).map (fun r => (item :: r.1, r.2))

def linkPairs? (a : Anchors) : List (Written × Written) → Option (List (Linked × Linked) × Anchors)
  | [] => some ([], a)
  | pair :: rest =>
      match link? a pair.1 with
      | none => none
      | some (key, a) =>
          match link? a pair.2 with
          | none => none
          | some (value, a) => (linkPairs? a rest).map (fun r => ((key, value) :: r.1, r.2))

end

end Node

/-- A document: its root, if there is one, and the nodes that can be referred to. -/
structure Document where
  root : Option Linked
  nodes : List (Nat × Linked)

namespace Document

/-- The node a node stands for, which is another one if it is a reference. -/
def resolve (d : Document) : Linked → Linked
  | .reference n => (d.nodes.lookup n).getD (.reference n)
  | node => node

/-- Read the directives in front of a document: at most one version, which must be 1.1 or 1.2, and
handles of tags, each at most once. -/
def directives? (version : Bool) (handles : Node.Handles) :
    List Token → Option (Node.Handles × List Token)
  | .version major minor :: rest =>
      if version || major ≠ 1 || (minor ≠ 1 && minor ≠ 2) then none
      else directives? true handles rest
  | .handle name text :: rest =>
      if (handles.lookup name).isSome then none
      else directives? version ((name, text) :: handles) rest
  | rest => some (handles, rest)

/-- Whether a token belongs to the frame of a document and not to its content. -/
def isFrame : Token → Bool
  | .version _ _ => true
  | .handle _ _ => true
  | .documentStart => true
  | .documentEnd => true
  | _ => false

/-- Read the content of a document that has been begun by a marker; there may be none. -/
def content? (handles : Node.Handles) (tokens : List Token) : Option (Written × List Token) :=
  if tokens.head?.all isFrame then some (Node.empty, tokens)
  else Node.read? handles true false tokens (4 * tokens.length + 8)

/-- Read the root of the only document of some tokens, if there is a document at all. -/
def root? (tokens : List Token) : Option (Option Written) :=
  let marked := tokens.head?.any (fun t => isFrame t && t ≠ .documentEnd)
  let result :=
    if marked then
      match directives? false [] tokens with
      | some (handles, .documentStart :: rest) => content? (handles ++ Node.standardHandles) rest
      | _ => none
    else Node.read? Node.standardHandles true false tokens (4 * tokens.length + 8)
  if tokens = [] then some none
  else
    match result with
    | none => none
    | some (root, rest) =>
        if (rest.dropWhile (· == .documentEnd)).isEmpty then some (some root) else none

def read? (text : String) : Option Document := do
  let tokens ← Token.scan? text.toList
  match ← root? tokens with
  | none => return ⟨none, []⟩
  | some root =>
      let (root, anchors) ← root.link? ⟨[], []⟩
      return ⟨some root, anchors.nodes⟩

end Document
end Yaml
end PathTemplate
