import ValidatorSigner.Yaml.Plain

/-! # Values of documents

References are followed wherever they stand. A document must not nest too deeply, and it must not
be blown up by references; so a node that refers to a node around it has no value.
-/
namespace ValidatorSigner.Yaml

def deepest : Nat := 128

mutual

/-- Number of steps in which a node is written: collections have a beginning and an end. -/
def Node.steps : Node → Nat
  | .scalar .. => 1
  | .reference _ => 1
  | .sequence _ items => 2 + itemSteps items
  | .mapping _ entries => 2 + entrySteps entries

def itemSteps : List Node → Nat
  | [] => 0
  | node :: rest => node.steps + itemSteps rest

def entrySteps : List (Node × Node) → Nat
  | [] => 0
  | (key, value) :: rest => key.steps + value.steps + entrySteps rest

end

/-- A step that may follow references; the state counts those that may still be followed. -/
abbrev Following := StateT Nat (Except Fault)

namespace Document

/-- References that may be followed while a document is read. -/
def patience (document : Document) : Nat := 100 * document.root.steps

def follow (document : Document) (node : Node) : Following Node := do
  match node with
  | .reference number =>
    match ← get with
    | 0 => throw .tooManyReferences
    | left + 1 =>
      set left
      match document.anchors.node? number with
      | some node => return node
      | none => throw .undefinedAnchor
  | node => return node

def checkTag (tag : Option Tag) : Following Unit :=
  if (tag.map Tag.isLocal).getD false then throw .tag else return ()

def value (document : Document) : Nat → Node → Following Value
  | 0, node => do
    match ← document.follow node with
    | .scalar tag style text => checkTag tag; Value.ofScalar tag style text
    | _ => throw .tooDeep
  | depth + 1, node => do
    match ← document.follow node with
    | .scalar tag style text => checkTag tag; Value.ofScalar tag style text
    | .sequence tag items =>
      checkTag tag
      return .sequence (← items.mapM (document.value depth))
    | .mapping tag entries =>
      checkTag tag
      return .mapping (← entries.mapM fun (key, value) =>
        return (← document.value depth key, ← document.value depth value))
    | .reference _ => throw .undefinedAnchor

/-- The characters of a scalar, whatever its type. -/
def scalarText (document : Document) (node : Node) : Following String := do
  match ← document.follow node with
  | .scalar _ _ text => return text
  | _ => throw .value

end Document

/-- What a document with a discriminating entry holds: that entry's text, and the rest. -/
inductive Tagged where
  | sequence (name : String) (items : List Value)
  | mapping (name : String) (entries : List (Value × Value))

/-- Sorts out the entry with the given key, which must be there exactly once. -/
def Document.taggedEntries (document : Document) (key : String) (depth : Nat) :
    List (Node × Node) → Following (Option String × List (Value × Value))
  | [] => return (none, [])
  | (first, second) :: rest => do
    match ← document.value depth first with
    | .text text =>
      if text = key then
        let name ← document.scalarText second
        let (other, entries) ← document.taggedEntries key depth rest
        if other.isSome then throw .value
        return (some name, entries)
      else
        let value ← document.value depth second
        let (name, entries) ← document.taggedEntries key depth rest
        return (name, (.text text, value) :: entries)
    | found =>
      let value ← document.value depth second
      let (name, entries) ← document.taggedEntries key depth rest
      return (name, (found, value) :: entries)

/-- Reads a document whose kind is given by the entry `key` of a mapping, or by the first item of
a sequence. -/
def Document.tagged (document : Document) (key : String) : Except Fault Tagged := do
  let read : Following Tagged := do
    match document.root with
    | .sequence tag (first :: rest) =>
      checkTag tag
      let name ← document.scalarText first
      return .sequence name (← rest.mapM (document.value (deepest - 1)))
    | .mapping tag entries =>
      checkTag tag
      match ← document.taggedEntries key (deepest - 1) entries with
      | (some name, entries) => return .mapping name entries
      | (none, _) => throw .value
    | _ => throw .value
  return (← read.run document.patience).1

end ValidatorSigner.Yaml
