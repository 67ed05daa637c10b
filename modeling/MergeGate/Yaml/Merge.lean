import MergeGate.Yaml.Node

/-
  MergeGate/Yaml/Merge.lean
  =========================
  **Merged entries.**  An entry with a merge key stands for the entries of the mapping that is its value,
  or of the mappings in the list that is its value.  They come before the mapping's own entries,
  those of an earlier mapping of a list after those of a later one, so that they give way to the
  mapping's own and the earlier mapping wins.

  Merging changes the graph, since a mapping may be the value of several merge keys: its own merge
  entries are gone once it is merged.
-/

namespace MergeGate.Yaml

abbrev Entries := List (Nat × Nat)

namespace Graph

def node (g : Graph) (id : Nat) : Node := g.getD id default

/-- The entries of a mapping, if the node is one. -/
def entries? (g : Graph) (id : Nat) : Option Entries :=
  match (node g id).body with
  | .mapping es => some es
  | _ => none

def setEntries (g : Graph) (id : Nat) (es : Entries) : Graph := g.modify id fun n => { n with body := .mapping es }

def hasKind (g : Graph) (kind : Kind) (id : Nat) : Bool := (node g id).kind == kind

/-- The value of the first merge entry, and the other entries. -/
def splitMerge (g : Graph) : Entries → Option (Nat × Entries)
  | [] => none
  | (k, v) :: es =>
    if hasKind g .merge k then some (v, es)
    else (splitMerge g es).map fun (found, rest) => (found, (k, v) :: rest)

/-- The graph in which a key of the kind `value` is a text like any other. -/
def settleKeys (g : Graph) (es : Entries) : Graph :=
  es.foldl (fun g (k, _) => if hasKind g .value k then g.modify k fun n => { n with kind := .text } else g) g

def entryCount (g : Graph) : Nat :=
  g.foldl (fun n (x : Node) => match x.body with | .mapping es => n + es.length | _ => n) 0

end Graph

open MergeGate.Yaml.Graph

mutual

/-- Merges what the merge entries of a mapping stand for into it, after what is merged already. -/
def mergeInto : Nat → Graph → Nat → Entries → Except Fault Graph
  | 0, _, _, _ => .error .tooDeep
  | n + 1, g, id, merged =>
    match entries? g id with
    | none => .error .malformed
    | some es =>
      match splitMerge g es with
      | none => .ok (settleKeys (setEntries g id (merged ++ es)) es)
      | some (source, rest) => do
        let (g, more) ← mergedFrom n (setEntries g id rest) source
        mergeInto n g id (merged ++ more)

/-- The entries that the value of a merge key stands for. -/
def mergedFrom : Nat → Graph → Nat → Except Fault (Graph × Entries)
  | 0, _, _ => .error .tooDeep
  | n + 1, g, source =>
    match (node g source).body with
    | .mapping _ => do
      let g ← mergeInto n g source []
      return (g, (entries? g source).getD [])
    | .list items => mergedFromItems n g items []
    | .scalar _ => .error .malformed

/-- The entries that the mappings of a list stand for. -/
def mergedFromItems : Nat → Graph → List Nat → Entries → Except Fault (Graph × Entries)
  | 0, _, _, _ => .error .tooDeep
  | _ + 1, g, [], later => .ok (g, later)
  | n + 1, g, item :: items, later => do
    let g ← mergeInto n g item []
    mergedFromItems n g items ((entries? g item).getD [] ++ later)

end

/-- The graph in which a mapping has no merge entries left. -/
def Graph.flatten (g : Graph) (id : Nat) : Except Fault Graph :=
  mergeInto ((entryCount g + 1) * (g.size + 4)) g id []

end MergeGate.Yaml
