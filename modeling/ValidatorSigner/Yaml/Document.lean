import ValidatorSigner.Text.Utf8
import ValidatorSigner.Yaml.Lexer

/-! # From tokens to the tree of a document

A text holds one document. Its tree keeps the names of anchors out: a node that refers to another
one holds the number of an anchor, and the document holds the nodes by these numbers.
-/
namespace ValidatorSigner.Yaml

/-- A node. A scalar that was written plainly may be of any type. -/
inductive Node where
  | scalar (tag : Option Tag) (style : ScalarStyle) (text : String)
  | sequence (tag : Option Tag) (items : List Node)
  | mapping (tag : Option Tag) (entries : List (Node × Node))
  | reference (anchor : Nat)
deriving Repr

def Node.empty : Node := .scalar none .plain ""

structure Anchors where
  /-- Number of each name: as many names came before it when it was given last. -/
  numbers : List (String × Nat) := []
  /-- Of each number the anchored node that it stands for, counted from the beginning of the
  document, the last one first. -/
  places : List (Nat × Nat) := []
  /-- The anchored nodes read completely, under their places. -/
  nodes : List (Nat × Node) := []

namespace Anchors

def begin (anchors : Anchors) (name : String) : Nat × Anchors :=
  let number := anchors.numbers.length
  let place := anchors.places.length
  (place, { anchors with
    numbers := (name, number) :: anchors.numbers.filter (·.1 != name)
    places := (number, place) :: anchors.places })

def finish (anchors : Anchors) (place : Nat) (node : Node) : Anchors :=
  { anchors with nodes := (place, node) :: anchors.nodes }

def node? (anchors : Anchors) (number : Nat) : Option Node :=
  (anchors.places.lookup number).bind fun place => anchors.nodes.lookup place

end Anchors

structure Stream where
  tokens : List Token
  /-- What the handles of tags stand for. -/
  handles : List (String × Tag) := []
  anchors : Anchors := {}

abbrev Reading := StateT Stream (Except Fault)

namespace Reading

def peek : Reading (Option Token) := return (← get).tokens.head?

def skip : Reading Unit := modify fun s => { s with tokens := s.tokens.drop 1 }

def accept (token : Token) : Reading Bool := do
  if (← peek) = some token then skip; return true
  else return false

def atAny (tokens : List Token) : Reading Bool := do
  match ← peek with
  | none => return false
  | some token => return tokens.contains token

/-- The anchor and the tag before a node, in either order. -/
def properties : Reading (Option String × Option (String × Tag)) := do
  match ← peek with
  | some (.anchor name) =>
    skip
    match ← peek with
    | some (.tag handle suffix) => skip; return (some name, some (handle, suffix))
    | _ => return (some name, none)
  | some (.tag handle suffix) =>
    skip
    match ← peek with
    | some (.anchor name) => skip; return (some name, some (handle, suffix))
    | _ => return (none, some (handle, suffix))
  | _ => return (none, none)

def resolveTag : Option (String × Tag) → Reading (Option Tag)
  | none => return none
  | some ("", suffix) => return some suffix
  | some (handle, suffix) => do
    match (← get).handles.lookup handle with
    | some lead => return some (lead ++ suffix)
    | none => throw .undefinedHandle

def reference (name : String) : Reading Node := do
  match (← get).anchors.numbers.lookup name with
  | some number => return .reference number
  | none => throw .undefinedAnchor

def anchored (anchor : Option String) (read : Reading Node) : Reading Node := do
  match anchor with
  | none => read
  | some name =>
    let (place, anchors) := (← get).anchors.begin name
    modify ({ · with anchors })
    let node ← read
    modify fun s => { s with anchors := s.anchors.finish place node }
    return node

def scalar (tag : Option Tag) (style : ScalarStyle) (text : String) : Reading Node := do
  skip
  return .scalar tag style text

/-- The entries of a sequence without a block of its own, as values in block mappings may be. -/
def indentlessItems (node : Reading Node) : Nat → Reading (List Node)
  | 0 => throw .grammar
  | rounds + 1 => do
    if ← accept .blockEntry then
      let item ←
        if ← atAny [.blockEntry, .key, .value, .blockEnd] then pure .empty else node
      return item :: (← indentlessItems node rounds)
    else return []

def blockItems (node : Reading Node) : Nat → Reading (List Node)
  | 0 => throw .grammar
  | rounds + 1 => do
    if ← accept .blockEntry then
      let item ← if ← atAny [.blockEntry, .blockEnd] then pure .empty else node
      return item :: (← blockItems node rounds)
    else if ← accept .blockEnd then return []
    else throw .grammar

/-- The entries of a block mapping. Keys are marked, and values may be missing. -/
def blockEntries (node : Reading Node) : Nat → Reading (List (Node × Node))
  | 0 => throw .grammar
  | rounds + 1 => do
    let present : Reading Node := do
      if ← atAny [.key, .value, .blockEnd] then pure .empty else node
    if ← accept .key then
      let key ← present
      let value ← if ← accept .value then present else pure .empty
      return (key, value) :: (← blockEntries node rounds)
    else if ← accept .blockEnd then return []
    else throw .grammar

def flowPair (node : Reading Node) : Reading Node := do
  let key ←
    -- Where the key is missing, the token in its place is passed over.
    if ← atAny [.value, .flowEntry, .flowSequenceEnd] then skip; pure .empty else node
  let value ←
    if ← accept .value then
      if ← atAny [.flowEntry, .flowSequenceEnd] then pure .empty else node
    else pure .empty
  return .mapping none [(key, value)]

def flowItems (node : Reading Node) (first : Bool) : Nat → Reading (List Node)
  | 0 => throw .grammar
  | rounds + 1 => do
    if ← accept .flowSequenceEnd then return []
    if !first then
      if !(← accept .flowEntry) then throw .grammar
      -- A comma may stand behind the last entry.
      if ← accept .flowSequenceEnd then return []
    let item ← if ← accept .key then flowPair node else node
    return item :: (← flowItems node false rounds)

def flowEntries (node : Reading Node) (first : Bool) : Nat → Reading (List (Node × Node))
  | 0 => throw .grammar
  | rounds + 1 => do
    if ← accept .flowMappingEnd then return []
    if !first then
      if !(← accept .flowEntry) then throw .grammar
      if ← accept .flowMappingEnd then return []
    let entry ←
      if ← accept .key then do
        let key ←
          if ← atAny [.value, .flowEntry, .flowMappingEnd] then pure .empty else node
        let value ←
          if ← accept .value then
            if ← atAny [.flowEntry, .flowMappingEnd] then pure .empty else node
          else pure .empty
        pure (key, value)
      -- A key without a mark has no value.
      else do pure (← node, .empty)
    return entry :: (← flowEntries node false rounds)

/-- A node. Inside brackets there are no blocks, and only values and keys of block mappings may be
sequences without a block of their own. The number of nested nodes is bounded by `fuel`. -/
def node (block indentless : Bool) : Nat → Reading Node
  | 0 => throw .grammar
  | fuel + 1 => do
    if let some (.reference name) ← peek then
      skip
      return ← reference name
    let (anchor, tag) ← properties
    let tag ← resolveTag tag
    anchored anchor do
      match ← peek with
      | some (.scalar style text) => scalar tag style text
      | some .flowSequenceStart =>
        skip
        return .sequence tag (← flowItems (node false false fuel) true (fuel + 1))
      | some .flowMappingStart =>
        skip
        return .mapping tag (← flowEntries (node false false fuel) true (fuel + 1))
      | token =>
        if indentless ∧ token = some .blockEntry then
          return .sequence tag (← indentlessItems (node true false fuel) (fuel + 1))
        else if block ∧ token = some .blockSequenceStart then
          skip
          return .sequence tag (← blockItems (node true false fuel) (fuel + 1))
        else if block ∧ token = some .blockMappingStart then
          skip
          return .mapping tag (← blockEntries (node true true fuel) (fuel + 1))
        -- An anchor or a tag may stand before nothing at all.
        else if anchor.isSome ∨ tag.isSome then return .scalar tag .plain ""
        else throw .grammar

/-- The directives before a document. A version may be given once, and each handle once. -/
def directives (version : Bool) (handles : List (String × Tag)) :
    List Token → Except Fault (List (String × Tag) × List Token)
  | .versionDirective major minor :: rest =>
    if version ∨ major ≠ 1 ∨ (minor ≠ 1 ∧ minor ≠ 2) then .error .directive
    else directives true handles rest
  | .tagDirective handle lead :: rest =>
    if (handles.lookup handle).isSome then .error .directive
    else directives version (handles ++ [(handle, lead)]) rest
  | rest => .ok (handles, rest)

def isOutside : Token → Bool
  | .versionDirective .. | .tagDirective .. | .documentStart | .documentEnd => true
  | _ => false

def isOpening : Token → Bool
  | .versionDirective .. | .tagDirective .. | .documentStart => true
  | _ => false

/-- What handles stand for that no directive explains. -/
def standardHandles : List (String × Tag) :=
  [("!", Text.utf8Bytes "!"), ("!!", Text.utf8Bytes "tag:yaml.org,2002:")]

def root (fuel : Nat) : Reading Node := do
  let tokens := (← get).tokens
  let explicit := (tokens.head?.map isOpening).getD false
  if explicit then
    let (handles, rest) ← directives false [] tokens
    if rest.head? ≠ some .documentStart then throw .grammar
    set { tokens := rest.drop 1, handles := handles ++ standardHandles : Stream }
    if ((← peek).map isOutside).getD true then return .empty
    else node true false fuel
  else
    modify ({ · with handles := standardHandles })
    node true false fuel

end Reading

structure Document where
  root : Node
  anchors : Anchors

def Document.read (text : String) : Except Fault Document := do
  let tokens ← tokenize text
  if tokens = [] then throw .grammar
  let (root, stream) ← (Reading.root (tokens.length + 1)).run { tokens }
  if stream.tokens.all (· = .documentEnd) then return { root, anchors := stream.anchors }
  else throw .grammar

end ValidatorSigner.Yaml
