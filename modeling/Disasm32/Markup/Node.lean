import Disasm32.Markup.Tag
import Disasm32.Markup.Token

/-! The nodes that the tokens of a document form. They refer to each other by number, so an alias is
the number of the node with its anchor, also inside that node itself. -/
namespace Disasm32.Markup

abbrev NodeId := Nat

inductive Content where
  | scalar (text : String)
  | sequence (items : List NodeId)
  | mapping (entries : List (NodeId × NodeId))
  deriving Repr

def Content.kind : Content → String
  | scalar _ => "scalar"
  | sequence _ => "sequence"
  | mapping _ => "mapping"

structure Node where
  tag : String
  content : Content
  mark : Mark
  deriving Repr

def Node.none : Node := ⟨Tag.null, .scalar "", ⟨0, 0⟩⟩

structure Graph where
  nodes : Array Node
  root : NodeId

/-- The state of reading nodes: the tokens that are left and the fault after them, the handles of
tags, the nodes read so far, and those with an anchor. -/
structure NodeReader where
  tokens : List Token
  fault : Option Error
  handles : List (String × String) := []
  nodes : Array Node := #[]
  anchors : List (String × NodeId) := []

abbrev ReadNode := StateT NodeReader (Except Error)

namespace ReadNode

def fail (context : Option (Context × Option Mark)) (problem : Problem) (mark : Mark) :
    ReadNode α :=
  throw (.fault context problem mark)

def peek : ReadNode Token := do
  let s ← get
  match s.tokens, s.fault with
  | token :: _, _ => return token
  | [], some e => throw e
  | [], none => return ⟨.streamEnd, ⟨0, 0⟩, ⟨0, 0⟩⟩

def next : ReadNode Token := do
  let token ← peek
  modify fun s => { s with tokens := s.tokens.drop 1 }
  return token

def at? (p : TokenKind → Bool) : ReadNode Bool := return p (← peek).kind

def usualHandles : List (String × String) := [("!", "!"), ("!!", Tag.stem)]

def resolveTag (t : WrittenTag) (start tagMark : Mark) : ReadNode String := do
  match t.handle with
  | none => return t.text
  | some handle => match (← get).handles.find? (·.1 == handle) with
    | some (_, stem) => return stem ++ t.text
    | none => fail (some (.node, some start)) (.unknownHandle handle) tagMark

structure Properties where
  anchor : Option String := none
  tag : Option String := none
  start : Option Mark := none

def takeTag? : ReadNode (Option (WrittenTag × Mark)) := do
  match (← peek) with
  | ⟨.tag t, start, _⟩ =>
    let _ ← next
    return some (t, start)
  | _ => return none

def takeAnchor? : ReadNode (Option (String × Mark)) := do
  match (← peek) with
  | ⟨.anchor name, start, _⟩ =>
    let _ ← next
    return some (name, start)
  | _ => return none

def takeProperties : ReadNode Properties := do
  let before ← takeAnchor?
  let tag ← takeTag?
  let after ← if before.isNone && tag.isSome then takeAnchor? else pure none
  let start := match before, tag with
    | some (_, m), _ => some m
    | none, some (_, m) => some m
    | none, none => none
  let resolved ← match tag, start with
    | some (t, m), some start => some <$> resolveTag t start m
    | _, _ => pure none
  return ⟨(before.orElse fun _ => after).map (·.1), resolved, start⟩

def checkAnchor (anchor : Option String) (start : Mark) : ReadNode Unit := do
  if let some name := anchor then
    let s ← get
    if let some (_, id) := s.anchors.find? (·.1 == name) then
      fail (some (.firstAnchor name, some (s.nodes.getD id .none).mark)) .secondAnchor start

def add (node : Node) : ReadNode NodeId :=
  modifyGet fun s => (s.nodes.size, { s with nodes := s.nodes.push node })

def addAnchored (anchor : Option String) (node : Node) : ReadNode NodeId := do
  checkAnchor anchor node.mark
  let id ← add node
  if let some name := anchor then
    modify fun s => { s with anchors := (name, id) :: s.anchors }
  return id

def fill (id : NodeId) (content : Content) : ReadNode NodeId := do
  modify fun s => { s with nodes := s.nodes.modify id fun node => { node with content } }
  return id

/-- The tag of a node that has none, or only the sign for none. -/
def orTag (tag : Option String) (usual : String) : String :=
  match tag with
  | none => usual
  | some t => if t == "!" then usual else t

def emptyScalar (mark : Mark) : ReadNode NodeId := add ⟨Tag.null, .scalar "", mark⟩

def isBlockEntry (k : TokenKind) : Bool := k == .blockEntry

def startsKey (k : TokenKind) : Bool := k == .key

def startsValue (k : TokenKind) : Bool := k == .value

def endsBlockItem (k : TokenKind) : Bool := k == .key || k == .value || k == .blockEnd

def scalarNode (p : Properties) (text : String) (plain : Bool) (start : Mark) :
    ReadNode NodeId :=
  let tag := match p.tag with
    | none => if plain then Tag.ofPlain text else Tag.str
    | some t => if t == "!" then Tag.ofPlain text else t
  addAnchored p.anchor ⟨tag, .scalar text, start⟩

/-- Begins a sequence: it has its anchor while its items are read. -/
def openSequence (p : Properties) (start : Mark) : ReadNode NodeId :=
  addAnchored p.anchor ⟨orTag p.tag Tag.seq, .sequence [], start⟩

/-- Begins a mapping: it has its anchor while its entries are read. -/
def openMapping (p : Properties) (start : Mark) : ReadNode NodeId :=
  addAnchored p.anchor ⟨orTag p.tag Tag.map, .mapping [], start⟩

def expectBlockEnd (context : Context) (start : Mark) : ReadNode Unit := do
  let token ← peek
  if token.kind != .blockEnd then
    fail (some (context, some start)) (.expectedToken "<block end>" token.kind.name) token.start
  let _ ← next

def expectComma (context : Context) (start : Mark) (what : String) : ReadNode Unit := do
  let token ← peek
  if token.kind != .flowEntry then
    fail (some (context, some start)) (.gotToken what token.kind.name) token.start
  let _ ← next

mutual

/-- A node. Block collections may begin only where `block` says so, and a sequence that is not
indented only where `indentless` does. -/
def node (fuel : Nat) (block indentless : Bool) : ReadNode NodeId := do
  match fuel with
  | 0 => emptyScalar ⟨0, 0⟩
  | fuel + 1 =>
    let first ← peek
    match first.kind with
    | .reference name =>
      let _ ← next
      match (← get).anchors.find? (·.1 == name) with
      | some (_, id) => return id
      | none => fail none (.unknownAlias name) first.start
    | _ =>
      let p ← takeProperties
      content fuel block indentless p (p.start.getD (← peek).start)

def content (fuel : Nat) (block indentless : Bool) (p : Properties) (start : Mark) :
    ReadNode NodeId := do
  match fuel with
  | 0 => emptyScalar start
  | fuel + 1 =>
    let token ← peek
    match token.kind, block, indentless with
    | .blockEntry, _, true =>
      let id ← openSequence p start
      fill id (.sequence (← indentlessItems fuel))
    | .scalar text plain, _, _ =>
      let _ ← next
      scalarNode p text plain start
    | .flowSequenceStart, _, _ =>
      let id ← openSequence p start
      let _ ← next
      fill id (.sequence (← flowItems fuel token.start true))
    | .flowMappingStart, _, _ =>
      let id ← openMapping p start
      let _ ← next
      fill id (.mapping (← flowEntries fuel token.start true))
    | .blockSequenceStart, true, _ =>
      let id ← openSequence p start
      let _ ← next
      fill id (.sequence (← blockItems fuel token.start))
    | .blockMappingStart, true, _ =>
      let id ← openMapping p start
      let _ ← next
      fill id (.mapping (← blockEntries fuel token.start))
    | kind, _, _ =>
      if p.anchor.isSome || p.tag.isSome then scalarNode p "" p.tag.isNone start
      else
        fail (some (if block then .blockNode else .flowNode, some start))
          (.expectedToken "the node content" kind.name) token.start

def blockItems (fuel : Nat) (start : Mark) : ReadNode (List NodeId) := do
  match fuel with
  | 0 => return []
  | fuel + 1 =>
    if ← at? isBlockEntry then
      let entry ← next
      let item ← if ← at? (fun k => k == .blockEntry || k == .blockEnd)
        then emptyScalar entry.stop else node fuel true false
      return item :: (← blockItems fuel start)
    else
      expectBlockEnd .blockSequence start
      return []

def indentlessItems (fuel : Nat) : ReadNode (List NodeId) := do
  match fuel with
  | 0 => return []
  | fuel + 1 =>
    if ← at? isBlockEntry then
      let entry ← next
      let item ← if ← at? (fun k => k == .blockEntry || endsBlockItem k)
        then emptyScalar entry.stop else node fuel true false
      return item :: (← indentlessItems fuel)
    else return []

def blockItem (fuel : Nat) (indicator : Token) : ReadNode NodeId := do
  match fuel with
  | 0 => emptyScalar indicator.stop
  | fuel + 1 =>
    if ← at? endsBlockItem then emptyScalar indicator.stop
    else node fuel true true

def blockEntries (fuel : Nat) (start : Mark) : ReadNode (List (NodeId × NodeId)) := do
  match fuel with
  | 0 => return []
  | fuel + 1 =>
    if ← at? startsKey then
      let key ← blockItem fuel (← next)
      let value ← if ← at? startsValue then blockItem fuel (← next)
        else emptyScalar (← peek).start
      return (key, value) :: (← blockEntries fuel start)
    else
      expectBlockEnd .blockMapping start
      return []

def flowValue (fuel : Nat) (ends : TokenKind → Bool) : ReadNode NodeId := do
  match fuel with
  | 0 => emptyScalar ⟨0, 0⟩
  | fuel + 1 =>
    if ← at? startsValue then
      let indicator ← next
      if ← at? ends then emptyScalar indicator.stop
      else node fuel false false
    else emptyScalar (← peek).start

def flowKey (fuel : Nat) (indicator : Token) (ends : TokenKind → Bool) : ReadNode NodeId := do
  match fuel with
  | 0 => emptyScalar indicator.stop
  | fuel + 1 =>
    if ← at? (fun k => k == .value || ends k) then emptyScalar indicator.stop
    else node fuel false false

/-- The items of a flow sequence; an entry with a key is a mapping of its own. -/
def flowItems (fuel : Nat) (start : Mark) (first : Bool) : ReadNode (List NodeId) := do
  match fuel with
  | 0 => return []
  | fuel + 1 =>
    let ends := fun k => k == TokenKind.flowEntry || k == .flowSequenceEnd
    if ← at? (· == .flowSequenceEnd) then
      let _ ← next
      return []
    if !first then expectComma .flowSequence start "',' or ']'"
    if ← at? startsKey then
      let indicator ← next
      let id ← add ⟨Tag.map, .mapping [], indicator.start⟩
      let key ← flowKey fuel indicator ends
      let value ← flowValue fuel ends
      let item ← fill id (.mapping [(key, value)])
      return item :: (← flowItems fuel start false)
    else if ← at? (· == .flowSequenceEnd) then
      let _ ← next
      return []
    else
      let item ← node fuel false false
      return item :: (← flowItems fuel start false)

def flowEntries (fuel : Nat) (start : Mark) (first : Bool) : ReadNode (List (NodeId × NodeId)) := do
  match fuel with
  | 0 => return []
  | fuel + 1 =>
    let ends := fun k => k == TokenKind.flowEntry || k == .flowMappingEnd
    if ← at? (· == .flowMappingEnd) then
      let _ ← next
      return []
    if !first then expectComma .flowMapping start "',' or '\x7d'"
    if ← at? startsKey then
      let indicator ← next
      let key ← flowKey fuel indicator ends
      let value ← flowValue fuel ends
      return (key, value) :: (← flowEntries fuel start false)
    else if ← at? (· == .flowMappingEnd) then
      let _ ← next
      return []
    else
      let key ← node fuel false false
      let value ← emptyScalar (← peek).start
      return (key, value) :: (← flowEntries fuel start false)

end

def framesDocument : TokenKind → Bool
  | .directive _ | .documentStart | .documentEnd | .streamEnd => true
  | _ => false

def directives : Nat → Bool → List (String × String) → ReadNode (List (String × String))
  | 0, _, handles => return handles
  | fuel + 1, versioned, handles => do
    let token ← peek
    match token.kind with
    | .directive d =>
      let _ ← next
      match d with
      | .version major _ =>
        if versioned then fail none .repeatedVersion token.start
        if major != 1 then fail none .wrongVersion token.start
        directives fuel true handles
      | .tag handle stem =>
        if handles.any (·.1 == handle) then fail none (.repeatedHandle handle) token.start
        directives fuel versioned (handles ++ [(handle, stem)])
      | .other => directives fuel versioned handles
    | _ => return handles

def skipDocumentEnds : Nat → ReadNode Unit
  | 0 => return
  | fuel + 1 => do
    if ← at? (· == .documentEnd) then
      let _ ← next
      skipDocumentEnds fuel

/-- Begins a document that has a frame, unless the stream ends here; where it begins. -/
def beginDocument? (fuel : Nat) : ReadNode (Option Mark) := do
  skipDocumentEnds fuel
  let token ← peek
  if token.kind == .streamEnd then return none
  let handles ← directives fuel false []
  let found ← peek
  if found.kind != .documentStart then
    fail none (.expectedToken "'<document start>'" found.kind.name) found.start
  let _ ← next
  let more := usualHandles.filter fun usual => !handles.any (·.1 == usual.1)
  modify fun s => { s with handles := handles ++ more }
  return some token.start

def document? : ReadNode (Option NodeId) := do
  let fuel := 6 * (← get).tokens.length + 12
  let token ← peek
  let root ←
    if !(token.kind == .streamEnd || token.kind == .documentStart ||
        token.kind matches .directive _) then
      modify fun s => { s with handles := usualHandles }
      some <$> node fuel true false
    else match ← beginDocument? fuel with
      | none => pure none
      | some _ =>
        let first ← peek
        if framesDocument first.kind then some <$> emptyScalar first.start
        else some <$> node fuel true false
  match root with
  | none => return none
  | some id =>
    if ← at? (· == .documentEnd) then
      let _ ← next
    match ← beginDocument? fuel with
    | none => return some id
    | some start =>
      let mark := ((← get).nodes.getD id .none).mark
      fail (some (.document, some mark)) .secondDocument start

end ReadNode

def Graph.ofTokens? (tokens : List Token × Option Error) : Except Error (Option Graph) := do
  let (root, s) ← ReadNode.document?.run { tokens := tokens.1, fault := tokens.2 }
  return root.map fun root => ⟨s.nodes, root⟩

end Disasm32.Markup
