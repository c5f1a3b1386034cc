import Disasm32.Document.Basic
import Disasm32.Document.SetOrder
import Disasm32.Markup.Node
import Disasm32.Markup.Scalar

/-! The value of a document's nodes. A scalar is read as soon as it is met; a collection gets a
number and is filled later, after those that were met before it, so of several faults the one that
comes first in this order is reported. Entries under a merge key belong to the mapping around it,
and a key for values becomes a text for every alias that is read after it. -/
namespace Disasm32.Markup

abbrev Node.Entry := NodeId × NodeId

def Node.entries (node : Node) : List Node.Entry :=
  match node.content with
  | .mapping entries => entries
  | _ => []

def Tag.isCollection (tag : String) : Bool :=
  [Tag.seq, Tag.map, Tag.set, Tag.omap, Tag.pairs].contains tag

/-- The value of a node. As keys, values of the same origin are the same even if the value, as one
that is no number, does not equal itself. -/
structure Part where
  value : Value
  origin : Nat

def Part.sameKey (a b : Part) : Bool :=
  a.origin == b.origin || a.value.sameKey b.value

/-- The state of finding values: the nodes as they are by now, the mappings whose merge keys are
done, the values that are known, and the collections in the order in which they are met. -/
structure MeaningState where
  nodes : Array Node
  merged : Array Bool := #[]
  parts : Array (Option Part) := #[]
  collections : Array NodeId := #[]
  /-- More than there are merge keys. -/
  levels : Nat

abbrev Meaning := StateT MeaningState (Except Error)

namespace Meaning

def fail (context : Option (Context × Option Mark)) (problem : Problem) (mark : Mark) :
    Meaning α :=
  throw (.fault context problem mark)

def nodeAt (id : NodeId) : Meaning Node := return (← get).nodes.getD id .none

def change (id : NodeId) (f : Node → Node) : Meaning Unit :=
  modify fun s => { s with nodes := s.nodes.modify id f }

def setEntries (id : NodeId) (entries : List Node.Entry) : Meaning Unit :=
  change id fun node => { node with content := .mapping entries }

def isMerged (id : NodeId) : Meaning Bool := return (← get).merged.getD id false

/-- The entries that the value under a merge key adds to the mapping that begins at `mark`: those
of a mapping, or of the mappings of a sequence from the last to the first. Each of them is merged
by `merge` before. -/
def addedEntries (merge : NodeId → Meaning Unit) (mark : Mark) (value : NodeId) :
    Meaning (List Node.Entry) := do
  let entriesOf (id : NodeId) (alsoList : Bool) : Meaning (List Node.Entry) := do
    let node ← nodeAt id
    match node.content with
    | .mapping _ =>
      merge id
      return (← nodeAt id).entries
    | content => fail (some (.mapping, some mark)) (.notMergeable alsoList content.kind) node.mark
  match (← nodeAt value).content with
  | .sequence items => return (← items.mapM (entriesOf · false)).reverse.flatten
  | _ => entriesOf value true

/-- Takes the entries with merge keys out of a mapping, of which `before` are looked at already,
and returns what they add. While an entry is merged the mapping may be merged as a part of itself;
then nothing is left to do. -/
def takeMergeKeys (merge : NodeId → Meaning Unit) (id : NodeId) (before : List Node.Entry) :
    List Node.Entry → Meaning (List Node.Entry)
  | [] => return []
  | (key, value) :: rest => do
    let tag := (← nodeAt key).tag
    if tag = Tag.merge then
      setEntries id (before.reverse ++ rest)
      let added ← addedEntries merge (← nodeAt id).mark value
      if ← isMerged id then return added
      return added ++ (← takeMergeKeys merge id before rest)
    else
      if tag = Tag.value then change key fun node => { node with tag := Tag.str }
      takeMergeKeys merge id ((key, value) :: before) rest

/-- Puts the entries under the merge keys of a mapping in front of its other entries. Every level
inside another takes a merge key out, so `levels` need not exceed their number. -/
def merge : Nat → NodeId → Meaning Unit
  | 0, _ => return
  | levels + 1, id => do
    if ← isMerged id then return
    let added ← takeMergeKeys (merge levels) id [] (← nodeAt id).entries
    unless added.isEmpty do
      setEntries id (added ++ (← nodeAt id).entries)
    modify fun s => { s with merged := s.merged.setIfInBounds id true }

def entriesOf (id : NodeId) : Meaning (List Node.Entry) := do
  let node ← nodeAt id
  match node.content with
  | .mapping _ =>
    merge (← get).levels id
    return (← nodeAt id).entries
  | content => fail none (.expectedNode "a mapping node" content.kind) node.mark

/-- The text of a scalar; a mapping has that of the value under its key for values. The way there
visits no node twice. -/
def textOf : Nat → NodeId → Meaning String
  | 0, _ => throw .endless
  | visits + 1, id => do
    let node ← nodeAt id
    match node.content with
    | .scalar text => return text
    | .sequence _ => fail none (.expectedNode "a scalar node" "sequence") node.mark
    | .mapping entries =>
      let nodes := (← get).nodes
      match entries.find? fun entry => (nodes.getD entry.1 .none).tag == Tag.value with
      | some (_, value) => textOf visits value
      | none => fail none (.expectedNode "a scalar node" "mapping") node.mark

/-- The value of a scalar. The word for what is no number is the same object everywhere. -/
def scalarPart (id : NodeId) (node : Node) : Meaning Part := do
  match Scalar.reader? node.tag node.mark with
  | none => fail none (.unknownTag node.tag) node.mark
  | some read =>
    let text ← textOf ((← get).nodes.size + 1) id
    if node.tag = Tag.timestamp && node.content.kind != "scalar" then throw .momentInMapping
    let value ← read text
    return ⟨value, if value matches .real .nan && Scalar.isNanWord text then 0 else id + 1⟩

/-- The value of a node: a collection is referred to by the number under which it is filled. -/
def part (id : NodeId) : Meaning Part := do
  match (← get).parts.getD id none with
  | some known => return known
  | none =>
    let node ← nodeAt id
    let found ←
      if Tag.isCollection node.tag then
        let isMapping := node.tag == Tag.map || node.tag == Tag.set
        modifyGet fun s => (Part.mk (.shared s.collections.size isMapping) (id + 1),
          { s with collections := s.collections.push id })
      else scalarPart id node
    modify fun s => { s with parts := s.parts.setIfInBounds id (some found) }
    return found

def entryParts (id : NodeId) : Meaning (List (Part × Part)) := do
  let mark := (← nodeAt id).mark
  (← entriesOf id).mapM fun entry => do
    let key ← part entry.1
    if key.value matches .shared .. then
      fail (some (.mapping, some mark)) .unhashableKey (← nodeAt entry.1).mark
    return (key, ← part entry.2)

/-- The entries of a mapping; a key that is given again keeps its place. -/
def mappingEntries (id : NodeId) : Meaning (List (Value × Value)) := do
  let entries := (← entryParts id).foldl (fun all entry =>
    Value.insertBy Part.sameKey entry.1 entry.2 all) []
  return entries.map fun entry => (entry.1.value, entry.2.value)

def sequenceItems (id : NodeId) : Meaning (List Value) := do
  let node ← nodeAt id
  match node.content with
  | .sequence items => items.mapM fun item => return (← part item).value
  | content => fail none (.expectedNode "a sequence node" content.kind) node.mark

def pairItems (context : Context) (id : NodeId) : Meaning (List Value) := do
  let node ← nodeAt id
  let start := some (context, some node.mark)
  match node.content with
  | .sequence items => items.mapM fun item => do
    let inner ← nodeAt item
    match inner.content with
    | .mapping [entry] => return .pair (← part entry.1).value (← part entry.2).value
    | .mapping entries => fail start (.notSingle entries.length) inner.mark
    | content => fail start (.expectedNode "a mapping of length 1" content.kind) inner.mark
  | content => fail start (.expectedNode "a sequence" content.kind) node.mark

def collection (id : NodeId) : Meaning Value := do
  let tag := (← nodeAt id).tag
  if tag = Tag.map then return .mapping (← mappingEntries id)
  else if tag = Tag.set then return .set (SetOrder.sort ((← mappingEntries id).map (·.1)))
  else if tag = Tag.omap then return .sequence (← pairItems .orderedMap id)
  else if tag = Tag.pairs then return .sequence (← pairItems .pairs id)
  else return .sequence (← sequenceItems id)

/-- The collections from the given number on; more may be met while these are filled. -/
def collectionsFrom : Nat → Nat → Meaning (List Value)
  | 0, _ => return []
  | fuel + 1, number => do
    match (← get).collections[number]? with
    | none => return []
    | some id => return (← collection id) :: (← collectionsFrom fuel (number + 1))

def document (root : NodeId) : Meaning Document := do
  let found ← part root
  let collections ← collectionsFrom ((← get).nodes.size + 1) 0
  return ⟨found.value, collections.toArray⟩

end Meaning

def Graph.document (g : Graph) : Except Error Document :=
  let start : MeaningState :=
    { nodes := g.nodes
      merged := Array.replicate g.nodes.size false
      parts := Array.replicate g.nodes.size none
      levels := g.nodes.foldl (fun n node => n + node.entries.length) 1 }
  (Meaning.document g.root).run' start

end Disasm32.Markup
