import MergeGate.Yaml.Meaning
import MergeGate.Yaml.Merge

/-
  MergeGate/Yaml/Document.lean
  ============================
  **The value of a YAML text.**  `Yaml.read` gives the value of the one document that a text may hold; a
  text without a document is null.

  Nodes get their values in the order of their distance from the root, so that of several faults
  the one nearest to the root is told.  Only then are the values put together, since a node may be
  part of many others and of itself.
-/

namespace MergeGate.Yaml

open MergeGate.Text

/-- What is known of the value of a node: the whole of a scalar, the parts of a collection. -/
inductive Content where
  | scalar (v : Datum)
  | list (items : List Nat)
  | pairs (items : List (Nat × Nat))
  | set (items : List Datum)
  | mapping (entries : List (Datum × Nat))
  deriving Inhabited

/-- The state of an evaluation: the collections in `waiting`, the last one first, have no content yet. -/
structure Work where
  graph : Graph
  contents : Array (Option Content)
  waiting : List Nat := []

/-- A step of an evaluation. -/
abbrev Worker := StateT Work (Except Fault)

def Kind.isCollection : Kind → Bool
  | .list | .mapping | .set | .ordered | .pairs => true
  | _ => false

/-- The text of a scalar.  A mapping with a key of the kind `value` stands for the value of that key. -/
def scalarText (g : Graph) : Nat → Nat → Except Fault (List Char)
  | 0, _ => .error .tooDeep
  | n + 1, id =>
    match (g.node id).body with
    | .scalar text => .ok text
    | .list _ => .error .malformed
    | .mapping es =>
      match es.find? fun e => g.hasKind .value e.1 with
      | some (_, v) => scalarText g n v
      | none => .error .malformed

namespace Worker

/-- Notes the content of a node. -/
def know (id : Nat) (c : Content) : Worker Unit :=
  modify fun w => { w with contents := w.contents.setIfInBounds id (some c) }

/-- Begins with a node: a scalar gets its value, a collection is kept waiting. -/
def begin (id : Nat) : Worker Unit := do
  let w ← get
  if ((w.contents[id]?).bind fun c => c).isSome then return
  let kind := (w.graph.node id).kind
  if kind.isCollection then
    know id (.list [])
    modify fun w => { w with waiting := id :: w.waiting }
  else
    let text ← scalarText w.graph (w.graph.size + 1) id
    know id (.scalar (← meaning kind text))

/-- The value of a key, which must be a scalar. -/
def keyOf (id : Nat) : Worker Datum := do
  begin id
  match ((← get).contents[id]?).bind fun c => c with
  | some (.scalar v) => return v
  | _ => throw .malformed

/-- Begins with the parts of a mapping; of entries with one key, the last one counts. -/
def entriesOf (id : Nat) : Worker (List (Datum × Nat)) := do
  let g ← (← get).graph.flatten id
  modify fun w => { w with graph := g }
  ((g.entries? id).getD []).foldlM (fun es (k, v) => do
    let key ← keyOf k
    begin v
    return Datum.putEntry key v es) []

/-- Begins with the parts of a list. -/
def itemsOf (id : Nat) : Worker (List Nat) := do
  match ((← get).graph.node id).body with
  | .list items => do
    items.forM begin
    return items
  | _ => throw .malformed

/-- Begins with the parts of a list of mappings of one entry each. -/
def pairsOf (id : Nat) : Worker (List (Nat × Nat)) := do
  let g := (← get).graph
  match (g.node id).body with
  | .list items =>
    items.mapM fun item => do
      match g.entries? item with
      | some [(k, v)] => do
        begin k
        begin v
        return (k, v)
      | _ => throw .malformed
  | _ => throw .malformed

/-- Finds the content of a collection. -/
def finish (id : Nat) : Worker Unit := do
  match ((← get).graph.node id).kind with
  | .list => know id (.list (← itemsOf id))
  | .mapping => know id (.mapping (← entriesOf id))
  | .set => know id (.set ((← entriesOf id).map Prod.fst))
  | _ => know id (.pairs (← pairsOf id))

/-- Finds the contents of all collections that wait, level by level. -/
def finishAll : Nat → Worker Unit
  | 0 => return ()
  | n + 1 => do
    let level := (← get).waiting.reverse
    if level.isEmpty then return
    modify fun w => { w with waiting := [] }
    level.forM finish
    finishAll n

end Worker

/-! ### Putting values together -/

/-- A value that is put together. -/
structure Assembled where
  value : Datum
  /-- The nodes further out that are met again in the value. -/
  loops : List Nat := []
  /-- Whether no node is met again in itself. -/
  isTree : Bool := true

namespace Assembled

/-- What several parts have in common. -/
def gather (parts : List Assembled) (value : Datum) : Assembled :=
  ⟨value, (parts.flatMap loops).eraseDups, parts.all isTree⟩

/-- The value of a node from its body: one that is met again is a knot. -/
def tied (id : Nat) (body : Assembled) : Assembled :=
  if body.loops.contains id then ⟨.knot id body.value, body.loops.filter (· ≠ id), false⟩ else body

end Assembled

/-- Values of nodes that are known, as far as they have no loops. -/
abbrev Known := Array (Option Datum)

/-- Puts the value of a node together; `path` holds the nodes around it. -/
def assemble (contents : Array (Option Content)) : Nat → List Nat → Nat → StateM Known Assembled
  | 0, _, _ => return ⟨.null, [], true⟩
  | n + 1, path, id => do
    let content := (contents.getD id none).getD default
    if path.contains id then
      let ofMapping := match content with | .mapping _ => true | _ => false
      return ⟨.loop id ofMapping, [id], false⟩
    match (← get).getD id none with
    | some v => return ⟨v, [], true⟩
    | none => do
      let part := assemble contents n (id :: path)
      let body : Assembled ←
        match content with
        | .scalar v => pure ⟨v, [], true⟩
        | .set items => pure ⟨.set items, [], true⟩
        | .list items => do
          let parts ← items.mapM part
          pure (.gather parts (.list (parts.map Assembled.value)))
        | .pairs items => do
          let parts ← items.mapM fun (k, v) => do
            let a ← part k
            let b ← part v
            pure (Assembled.gather [a, b] (.pair a.value b.value))
          pure (.gather parts (.list (parts.map Assembled.value)))
        | .mapping entries => do
          let parts ← entries.mapM fun (k, v) => do
            let b ← part v
            pure (k, b)
          pure (.gather (parts.map Prod.snd) (.mapping (parts.map fun (k, b) => (k, b.value))))
      if body.isTree then modify fun known => known.setIfInBounds id (some body.value)
      return body.tied id

/-- The value of the node that is the root of a graph. -/
def valueOf (g : Graph) (root : Nat) : Except Fault Datum := do
  let evaluation : Worker Unit := do
    Worker.begin root
    Worker.finishAll (g.size + 1)
  let (_, w) ← evaluation.run { graph := g, contents := Array.replicate g.size none }
  return ((assemble w.contents (g.size + 1) [] root).run (Array.replicate g.size none)).1.value

/-- The value of the document of a text. -/
def read (cs : List Char) : Except Fault Datum := do
  match ← graphOf cs with
  | (_, none) => return .null
  | (g, some root) => valueOf g root

end MergeGate.Yaml
