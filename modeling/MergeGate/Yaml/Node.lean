import MergeGate.Yaml.Token
import MergeGate.Yaml.Kind

/-
  MergeGate/Yaml/Node.lean
  ========================
  **The nodes of a YAML text.**  A document is a graph: an alias stands for the node that carries its
  anchor, which may be one that is still open, so that a node can hold itself.  Nodes are
  numbered in the order in which they begin.  `Graph.ofText` gives the graph of the one document
  that a text may hold, and the number of its root.

  Collections may be nested up to `depthLimit`.
-/

namespace MergeGate.Yaml

/-- What a node holds; the parts of a collection are given by their numbers. -/
inductive Body where
  | scalar (text : List Char)
  | list (items : List Nat)
  | mapping (entries : List (Nat × Nat))
  deriving DecidableEq, Repr, Inhabited

structure Node where
  kind : Kind
  body : Body
  deriving DecidableEq, Repr, Inhabited

/-- The nodes of a document by their numbers. -/
abbrev Graph := Array Node

structure Reading where
  tokens : List Token
  /-- What ends the tokens, if it is not the end of the text. -/
  fault : Option Fault
  nodes : Graph := #[]
  anchors : List (List Char × Nat) := []
  handles : List (List Char × List Char) := []

abbrev Reader := StateT Reading (Except Fault)

/-- How deep collections may be nested. -/
def depthLimit : Nat := 485

/-- What handles stand for unless they are declared. -/
def defaultHandles : List (List Char × List Char) := [(['!'], ['!']), (['!', '!'], kindSpace)]

/-- A tag that says nothing. -/
def emptyTag : List Char := ['!']

namespace Reader

/-- The text has no structure. -/
def fail {α : Type} : Reader α := throw .malformed

/-- The next token, which stays; none at the end of the text. -/
def peek : Reader (Option Token) := do
  let s ← get
  match s.tokens, s.fault with
  | [], some fault => throw fault
  | ts, _ => return ts.head?

/-- Takes the next token. -/
def drop : Reader Unit := modify fun s => { s with tokens := s.tokens.tail }

/-- Takes a token if it is the next one. -/
def accept (t : Token) : Reader Bool := do
  if (← peek) = some t then
    drop
    return true
  else return false

def isNext (ts : List Token) : Reader Bool := do
  match ← peek with
  | some t => return ts.contains t
  | none => return false

def addNode (n : Node) : Reader Nat := do
  let s ← get
  set { s with nodes := s.nodes.push n }
  return s.nodes.size

/-- Gives a node the parts that it turned out to have. -/
def fill (id : Nat) (body : Body) : Reader Unit :=
  modify fun s => { s with nodes := s.nodes.modify id fun n => { n with body := body } }

def addEmpty : Reader Nat := addNode ⟨Kind.ofPlain [], .scalar []⟩

structure Marks where
  anchor : Option (List Char) := none
  /-- The name that the tag stands for. -/
  tag : Option (List Char) := none

/-- The name that a tag stands for. -/
def nameOf (t : WrittenTag) : Reader (List Char) := do
  match t.handle with
  | none => return t.suffix
  | some handle =>
    match (← get).handles.lookup handle with
    | some meaning => return meaning ++ t.suffix
    | none => fail

/-- Takes an anchor, if one comes. -/
def takeAnchorMark : Reader (Option (List Char)) := do
  match ← peek with
  | some (.anchor name) => do
    drop
    return some name
  | _ => return none

/-- Takes a tag, if one comes. -/
def takeTagMark : Reader (Option WrittenTag) := do
  match ← peek with
  | some (.tag t) => do
    drop
    return some t
  | _ => return none

/-- Takes an anchor and a tag, in either order.  An anchor must be new. -/
def takeMarks : Reader Marks := do
  let before ← takeAnchorMark
  let written ← takeTagMark
  let anchor ← if before.isNone && written.isSome then takeAnchorMark else pure before
  let tag ←
    match written with
    | some t => pure (some (← nameOf t))
    | none => pure none
  return ⟨anchor, tag⟩

/-- The kind of a node with a tag; without one it is the kind that is usual. -/
def Marks.kind (m : Marks) (usual : Kind) : Kind :=
  match m.tag with
  | none => usual
  | some name => if name == emptyTag then usual else .ofName name

/-- A new node with marks, whose anchor stands for it from now on. -/
def addMarked (m : Marks) (n : Node) : Reader Nat := do
  match m.anchor with
  | none => addNode n
  | some name => do
    if ((← get).anchors.lookup name).isSome then fail
    else
      let id ← addNode n
      modify fun s => { s with anchors := (name, id) :: s.anchors }
      return id

/-- The kind of a scalar: its form tells it if it stands plain or if its tag says nothing. -/
def scalarKind (m : Marks) (text : List Char) (isPlain : Bool) : Kind :=
  m.kind (if (isPlain && m.tag.isNone) || m.tag == some emptyTag then .ofPlain text else .text)

/-- Where a node stands: in a flow collection, in a block collection, or as the key or the value of a
block mapping, where the entries of a list need not lie further right. -/
inductive Place where
  | inFlow
  | inBlock
  | inEntry
  deriving DecidableEq, Repr

/-- A node that only its marks tell of. -/
def absent (m : Marks) : Reader Nat := do
  if m.anchor.isNone && m.tag.isNone then fail
  else addMarked m ⟨m.kind (.ofPlain []), .scalar []⟩

/-- A collection, whose parts are read while it already has its number and its anchor. -/
def collection (depth : Nat) (m : Marks) (usual : Kind) (parts : Reader Body) : Reader Nat := do
  if depthLimit < depth then throw .tooDeep
  else
    let id ← addMarked m ⟨m.kind usual, .list []⟩
    fill id (← parts)
    return id

/-- Takes the comma before a part, which the first part has not. -/
def separator (isFirst : Bool) : Reader Bool := if isFirst then return true else accept .comma

mutual

/-- Reads a node; `depth` counts the collections around it. -/
def node : Nat → Nat → Place → Reader Nat
  | 0, _, _ => throw .tooDeep
  | n + 1, depth, place => do
    match ← peek with
    | some (.alias name) => do
      drop
      match (← get).anchors.lookup name with
      | some id => return id
      | none => fail
    | _ => do
      let marks ← takeMarks
      match ← peek with
      | some (.scalar text isPlain) => do
        drop
        addMarked marks ⟨scalarKind marks text isPlain, .scalar text⟩
      | some .openList => do
        drop
        collection depth marks .list (do return .list (← flowItems n (depth + 1) true))
      | some .openMapping => do
        drop
        collection depth marks .mapping (do return .mapping (← flowEntries n (depth + 1) true))
      | some .entry =>
        if place = .inEntry then
          collection depth marks .list (do return .list (← looseItems n (depth + 1)))
        else absent marks
      | some .blockSequence =>
        if place = .inFlow then absent marks
        else do
          drop
          collection depth marks .list (do return .list (← blockItems n (depth + 1)))
      | some .blockMapping =>
        if place = .inFlow then absent marks
        else do
          drop
          collection depth marks .mapping (do return .mapping (← blockEntries n (depth + 1)))
      | _ => absent marks

/-- Reads a node that is empty if one of some tokens comes. -/
def part : Nat → Nat → Place → List Token → Reader Nat
  | 0, _, _, _ => throw .tooDeep
  | n + 1, depth, place, ends => do if ← isNext ends then addEmpty else node n depth place

def blockItems : Nat → Nat → Reader (List Nat)
  | 0, _ => throw .tooDeep
  | n + 1, depth => do
    if ← accept .entry then
      let item ← part n depth .inBlock [.entry, .blockEnd]
      return item :: (← blockItems n depth)
    else if ← accept .blockEnd then return []
    else fail

/-- Reads the items of a list that lies no further right than the mapping it belongs to. -/
def looseItems : Nat → Nat → Reader (List Nat)
  | 0, _ => throw .tooDeep
  | n + 1, depth => do
    if ← accept .entry then
      let item ← part n depth .inBlock [.entry, .key, .value, .blockEnd]
      return item :: (← looseItems n depth)
    else return []

/-- Reads the value of an entry, which is empty without a colon or if one of some tokens comes. -/
def valuePart : Nat → Nat → Place → List Token → Reader Nat
  | 0, _, _, _ => throw .tooDeep
  | n + 1, depth, place, ends => do if ← accept .value then part n depth place ends else addEmpty

/-- Reads the entries of a block mapping. -/
def blockEntries : Nat → Nat → Reader (List (Nat × Nat))
  | 0, _ => throw .tooDeep
  | n + 1, depth => do
    if ← accept .key then
      let key ← part n depth .inEntry [.key, .value, .blockEnd]
      let value ← valuePart n depth .inEntry [.key, .value, .blockEnd]
      return (key, value) :: (← blockEntries n depth)
    else if ← accept .blockEnd then return []
    else fail

/-- Reads the items of a flow list; an entry among them is a mapping by itself. -/
def flowItems : Nat → Nat → Bool → Reader (List Nat)
  | 0, _, _ => throw .tooDeep
  | n + 1, depth, isFirst => do
    if ← accept .closeList then return []
    else if !(← separator isFirst) then fail
    else if ← accept .key then
      let item ← collection depth {} .mapping do
        let key ← part n (depth + 1) .inFlow [.value, .comma, .closeList]
        let value ← valuePart n (depth + 1) .inFlow [.comma, .closeList]
        return .mapping [(key, value)]
      return item :: (← flowItems n depth false)
    else if ← isNext [.closeList] then flowItems n depth false
    else
      let item ← node n depth .inFlow
      return item :: (← flowItems n depth false)

/-- Reads the entries of a flow mapping; a node without a colon is a key without a value. -/
def flowEntries : Nat → Nat → Bool → Reader (List (Nat × Nat))
  | 0, _, _ => throw .tooDeep
  | n + 1, depth, isFirst => do
    if ← accept .closeMapping then return []
    else if !(← separator isFirst) then fail
    else if ← accept .key then
      let key ← part n depth .inFlow [.value, .comma, .closeMapping]
      let value ← valuePart n depth .inFlow [.comma, .closeMapping]
      return (key, value) :: (← flowEntries n depth false)
    else if ← isNext [.closeMapping] then flowEntries n depth false
    else
      let key ← node n depth .inFlow
      let value ← addEmpty
      return (key, value) :: (← flowEntries n depth false)

end

/-! ### Documents -/

/-- Takes the directives before a document; each may be given once, and the version must be 1. -/
def directives : Nat → Bool → List (List Char × List Char) → Reader Unit
  | 0, _, _ => throw .tooDeep
  | n + 1, isVersioned, declared => do
    match ← peek with
    | some (.directive d) => do
      drop
      match d with
      | .version major => if isVersioned || major ≠ 1 then fail else directives n true declared
      | .handle name meaning =>
        if (declared.lookup name).isSome then fail else directives n isVersioned ((name, meaning) :: declared)
      | .other => directives n isVersioned declared
    | _ => modify fun s => { s with handles := declared ++ defaultHandles }

/-- Takes the marks at the end of a document. -/
def documentEnds : Nat → Reader Unit
  | 0 => return ()
  | n + 1 => do if ← accept .documentEnd then documentEnds n

/-- Reads the root of a document that begins with directives or a mark. -/
def explicitRoot (n : Nat) : Reader Nat := do
  directives n false []
  if !(← accept .documentStart) then fail
  else if (← peek).isNone || (← isNext [.documentStart, .documentEnd]) then addEmpty
  else
    match ← peek with
    | some (.directive _) => addEmpty
    | _ => node n 0 .inBlock

/-- Reads the root of the document, if there is one. -/
def root (n : Nat) : Reader (Option Nat) := do
  match ← peek with
  | none => return none
  | some (.directive _) | some .documentStart => return some (← explicitRoot n)
  | some _ => do
    modify fun s => { s with handles := defaultHandles }
    return some (← node n 0 .inBlock)

/-- Reads the document that has to be the only one. -/
def document (n : Nat) : Reader (Option Nat) := do
  let id ← root n
  documentEnds n
  if (← peek).isSome then fail else return id

end Reader

/-- Whether a text may hold a character. -/
def isReadable (c : Char) : Bool :=
  let n := c.toNat
  n == 9 || n == 10 || n == 13 || (32 ≤ n && n ≤ 126) || n == 0x85 || (0xa0 ≤ n && n ≤ 0xd7ff)
    || (0xe000 ≤ n && n ≤ 0xfffd) || 0x10000 ≤ n

/-- The graph of the document of a text, and its root, if there is one. -/
def graphOf (cs : List Char) : Except Fault (Graph × Option Nat) :=
  if !cs.all isReadable then .error .malformed
  else
    let (tokens, fault) := tokensOf cs
    match (Reader.document (4 * tokens.length + 8)).run { tokens := tokens, fault := fault } with
    | .ok (id, s) => .ok (s.nodes, id)
    | .error fault => .error fault

end MergeGate.Yaml
