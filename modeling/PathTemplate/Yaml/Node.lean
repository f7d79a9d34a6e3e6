import PathTemplate.Yaml.Token

/-!
YAML documents as trees of nodes, read from tokens.  Every reader takes the tokens from the node's
first one on and gives the node with the tokens behind it; it fails where no node can be read.

`fuel` bounds the depth of calls, which never exceeds a multiple of the number of tokens.
-/

namespace PathTemplate
namespace Yaml

/-- What is attached to a node: the name other places refer to it by, and its tag. -/
structure Properties where
  anchor : Option (List Char)
  tag : Option (List Char)
deriving DecidableEq, Repr

namespace Properties

def none : Properties :=
  ⟨.none, .none⟩

end Properties

/-- A node of a document, which may refer to other nodes by values of type `ρ`. -/
inductive Node (ρ : Type) where
  /-- A reference to another node. -/
  | reference (target : ρ)
  | scalar (properties : Properties) (text : List Char) (style : Style)
  | sequence (properties : Properties) (items : List (Node ρ))
  | mapping (properties : Properties) (pairs : List (Node ρ × Node ρ))

/-- A node as it is written, with references by name. -/
abbrev Written := Node (List Char)

namespace Node

/-- The node where nothing is written. -/
def empty : Written :=
  scalar .none [] .plain

/-- What the handles of tags stand for. -/
abbrev Handles := List (List Char × List Char)

def standardHandles : Handles :=
  [(['!'], ['!']), (['!', '!'], "tag:yaml.org,2002:".toList)]

/-- The full text of a tag, if its handle is known. -/
def fullTag? (handles : Handles) (handle suffix : List Char) : Option (List Char) :=
  if handle = [] then some suffix else (handles.lookup handle).map (· ++ suffix)

/-- Read a node's properties, an anchor and a tag in either order. -/
def properties? (handles : Handles) : List Token → Option (Properties × List Token)
  | .anchor name :: .tag handle suffix :: rest =>
      (fullTag? handles handle suffix).map (fun t => (⟨some name, some t⟩, rest))
  | .tag handle suffix :: .anchor name :: rest =>
      (fullTag? handles handle suffix).map (fun t => (⟨some name, some t⟩, rest))
  | .anchor name :: rest => some (⟨some name, none⟩, rest)
  | .tag handle suffix :: rest =>
      (fullTag? handles handle suffix).map (fun t => (⟨none, some t⟩, rest))
  | rest => some (.none, rest)

/-- Whether a token ends an item of a block, so that the item is empty. -/
def endsItem : Option Token → Bool
  | some .entry => true
  | some .blockEnd => true
  | _ => false

/-- Whether a token ends a key or value of a block, so that it is empty. -/
def endsPair : Option Token → Bool
  | some .key => true
  | some .value => true
  | some .blockEnd => true
  | _ => false

/-- Whether a token ends an item of a sequence in brackets. -/
def endsFlowItem : Option Token → Bool
  | some .flowEntry => true
  | some .flowSequenceEnd => true
  | _ => false

/-- Whether a token ends an item of a mapping in braces. -/
def endsFlowPair : Option Token → Bool
  | some .flowEntry => true
  | some .flowMappingEnd => true
  | _ => false

mutual

/-- Read a node.  Only where `block` holds may a collection by indentation stand; where `indentless`
holds too, a sequence may do without indentation of its own. -/
def read? (handles : Handles) (block indentless : Bool) (tokens : List Token) :
    Nat → Option (Written × List Token)
  | 0 => none
  | fuel + 1 =>
      match tokens with
      | .reference name :: rest => some (reference name, rest)
      | _ =>
          match properties? handles tokens with
          | none => none
          | some (properties, rest) =>
              match rest with
              | .scalar text style :: after =>
                  let tag := properties.tag.filter (· ≠ ['!'])
                  some (scalar { properties with tag := tag } text style, after)
              | .flowSequenceStart :: after =>
                  (flowItems? handles true [] after fuel).map
                    (fun r => (sequence properties r.1, r.2))
              | .flowMappingStart :: after =>
                  (flowPairs? handles true [] after fuel).map
                    (fun r => (mapping properties r.1, r.2))
              | .sequenceStart :: after =>
                  if block then
                    (items? handles [] after fuel).map (fun r => (sequence properties r.1, r.2))
                  else none
              | .mappingStart :: after =>
                  if block then
                    (pairs? handles [] after fuel).map (fun r => (mapping properties r.1, r.2))
                  else none
              | .entry :: _ =>
                  if indentless then
                    (indentlessItems? handles [] rest fuel).map
                      (fun r => (sequence properties r.1, r.2))
                  else if properties = .none then none
                  else some (scalar properties [] .plain, rest)
              | _ =>
                  if properties = .none then none
                  else some (scalar properties [] .plain, rest)

/-- Read the items of an indented sequence, given those before, last one first. -/
def items? (handles : Handles) (done : List Written) (tokens : List Token) :
    Nat → Option (List Written × List Token)
  | 0 => none
  | fuel + 1 =>
      match tokens with
      | .entry :: rest =>
          if endsItem rest.head? then items? handles (empty :: done) rest fuel
          else
            match read? handles true false rest fuel with
            | some (item, rest) => items? handles (item :: done) rest fuel
            | none => none
      | .blockEnd :: rest => some (done.reverse, rest)
      | _ => none

/-- Read the items of a sequence without indentation, given those before, last one first. -/
def indentlessItems? (handles : Handles) (done : List Written) (tokens : List Token) :
    Nat → Option (List Written × List Token)
  | 0 => none
  | fuel + 1 =>
      match tokens with
      | .entry :: rest =>
          if endsItem rest.head? || endsPair rest.head? then
            indentlessItems? handles (empty :: done) rest fuel
          else
            match read? handles true false rest fuel with
            | some (item, rest) => indentlessItems? handles (item :: done) rest fuel
            | none => none
      | _ => some (done.reverse, tokens)

/-- Read the pairs of an indented mapping, given those before, last one first. -/
def pairs? (handles : Handles) (done : List (Written × Written)) (tokens : List Token) :
    Nat → Option (List (Written × Written) × List Token)
  | 0 => none
  | fuel + 1 =>
      let read := fun rest : List Token =>
        if endsPair rest.head? then some (empty, rest) else read? handles true true rest fuel
      match tokens with
      | .blockEnd :: rest => some (done.reverse, rest)
      | .key :: rest =>
          match read rest with
          | some (key, .value :: rest) =>
              match read rest with
              | some (value, rest) => pairs? handles ((key, value) :: done) rest fuel
              | none => none
          | some (key, rest) => pairs? handles ((key, empty) :: done) rest fuel
          | none => none
      | _ => none

/-- Read the items of a sequence in brackets, given those before, last one first.  An item with a
key is a mapping of one pair. -/
def flowItems? (handles : Handles) (first : Bool) (done : List Written) (tokens : List Token) :
    Nat → Option (List Written × List Token)
  | 0 => none
  | fuel + 1 =>
      let next :=
        match tokens with
        | .flowSequenceEnd :: _ => some tokens
        | .flowEntry :: rest => if first then some tokens else some rest
        | _ => if first then some tokens else none
      match next with
      | none => none
      | some (.flowSequenceEnd :: rest) => some (done.reverse, rest)
      | some (.key :: rest) =>
          match singlePair? handles rest fuel with
          | some (pair, rest) =>
              flowItems? handles false (mapping .none [pair] :: done) rest fuel
          | none => none
      | some rest =>
          match read? handles false false rest fuel with
          | some (item, rest) => flowItems? handles false (item :: done) rest fuel
          | none => none

/-- Read a pair within brackets.  A key that is not written takes the token in its place with it. -/
def singlePair? (handles : Handles) (tokens : List Token) :
    Nat → Option ((Written × Written) × List Token)
  | 0 => none
  | fuel + 1 =>
      let key :=
        if tokens.head? = some .value || endsFlowItem tokens.head? then
          some (empty, tokens.drop 1)
        else read? handles false false tokens fuel
      match key with
      | none => none
      | some (key, .value :: rest) =>
          if endsFlowItem rest.head? then some ((key, empty), rest)
          else (read? handles false false rest fuel).map (fun r => ((key, r.1), r.2))
      | some (key, rest) => some ((key, empty), rest)

/-- Read the pairs of a mapping in braces, given those before, last one first.  A node without the
mark of a key is a key without value. -/
def flowPairs? (handles : Handles) (first : Bool) (done : List (Written × Written))
    (tokens : List Token) : Nat → Option (List (Written × Written) × List Token)
  | 0 => none
  | fuel + 1 =>
      let next :=
        match tokens with
        | .flowMappingEnd :: _ => some tokens
        | .flowEntry :: rest => if first then some tokens else some rest
        | _ => if first then some tokens else none
      match next with
      | none => none
      | some (.flowMappingEnd :: rest) => some (done.reverse, rest)
      | some (.key :: rest) =>
          let key :=
            if rest.head? = some .value || endsFlowPair rest.head? then some (empty, rest)
            else read? handles false false rest fuel
          match key with
          | none => none
          | some (key, .value :: rest) =>
              if endsFlowPair rest.head? then
                flowPairs? handles false ((key, empty) :: done) rest fuel
              else
                match read? handles false false rest fuel with
                | some (value, rest) => flowPairs? handles false ((key, value) :: done) rest fuel
                | none => none
          | some (key, rest) => flowPairs? handles false ((key, empty) :: done) rest fuel
      | some rest =>
          match read? handles false false rest fuel with
          | some (key, rest) => flowPairs? handles false ((key, empty) :: done) rest fuel
          | none => none

end

end Node
end Yaml
end PathTemplate
