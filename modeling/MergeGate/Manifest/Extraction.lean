import MergeGate.Manifest.Basic

/-
  MergeGate/Manifest/Extraction.lean
  ==================================
  **Records of the two tables.**  A lock manifest has its packages in one of two tables.

  The flat table maps the path where a package is installed to an entry.  The name of the package
  is the entry's own, or else what follows the last `node_modules/` of the path.  The entry of
  the empty path is the project itself.

  The tree maps names to entries, and an entry may have a tree of its own.  `treeRecords` walks it
  with a list of pending entries: the front one is taken, and the entries below it are put in
  front of the rest.  `Tree.preorder` is the same walk by recursion over the tree.

  Entries without a version that is a text, or without a name, are passed over; what lies below
  them in the tree is not.
-/

namespace MergeGate

open MergeGate.Text

/-- The piece of a path before the name of an installed package. -/
def installMark : List Char := "node_modules/".toList

/-- What follows the last place where `mark` stands. -/
def afterLast (mark : List Char) : List Char → Option (List Char)
  | [] => none
  | c :: cs =>
    match afterLast mark cs with
    | some rest => some rest
    | none => dropLead mark (c :: cs)

/-- The name of the package installed at a path. -/
def nameOfPath (path : String) : String :=
  match afterLast installMark path.toList with
  | some name => String.ofList name
  | none => path

/-- The record of an entry with a name, if both the name and the version are there. -/
def recordOf? (name : String) (entry : Json) : Option Record :=
  match (entry.get? "version").bind Json.filledText? with
  | some version => if name = "" then none else some ⟨name, version⟩
  | none => none

/-! ### The flat table -/

/-- The name of the package of an entry of the flat table. -/
def flatName (path : String) (entry : Json) : String :=
  ((entry.get? "name").bind Json.filledText?).getD (nameOfPath path)

def flatRecord? (path : String) (entry : Json) : Option Record :=
  if path = "" then none else recordOf? (flatName path entry) entry

/-- The records of the flat table, in its order. -/
def flatRecords (table : Json.Members) : List Record := table.filterMap fun e => flatRecord? e.1 e.2

/-! ### The tree -/

namespace Json

mutual

/-- The number of values that a value consists of. -/
def size : Json → Nat
  | .list xs => sizeItems xs + 1
  | .object ms => sizeMembers ms + 1
  | _ => 1

/-- The number of values in items. -/
def sizeItems : List Json → Nat
  | [] => 0
  | x :: xs => size x + sizeItems xs

/-- The number of values in members. -/
def sizeMembers : List (String × Json) → Nat
  | [] => 0
  | (_, v) :: ms => size v + sizeMembers ms

end

end Json

/-- The entries below an entry of the tree. -/
def nested (entry : Json) : Json.Members :=
  match entry.get? "dependencies" with
  | some (.object ms) => ms
  | _ => []

/-- Walks pending entries; `fuel` is at least the number of values in them. -/
def walk : Nat → Json.Members → List Record
  | 0, _ => []
  | _ + 1, [] => []
  | fuel + 1, (name, entry) :: pending =>
    (recordOf? name entry).toList ++ walk fuel (nested entry ++ pending)

/-- The records of the tree, every entry before those below it. -/
def treeRecords (table : Json.Members) : List Record := walk (Json.sizeMembers table + 1) table

namespace Tree

mutual

/-- The records of an entry and of those below it. -/
def entryRecords (name : String) (entry : Json) : List Record :=
  match entry with
  | .object ms => (recordOf? name (.object ms)).toList ++ belowRecords ms
  | _ => []

/-- The records of the tree among the members of an entry, which is the first one of its name. -/
def belowRecords : List (String × Json) → List Record
  | [] => []
  | (k, v) :: ms => if k = "dependencies" then tableRecords v else belowRecords ms

/-- The records of the tree that a value is. -/
def tableRecords : Json → List Record
  | .object es => preorder es
  | _ => []

/-- The records of the tree, by recursion. -/
def preorder : List (String × Json) → List Record
  | [] => []
  | (name, entry) :: es => entryRecords name entry ++ preorder es

end

end Tree

/-! ### The two walks agree -/

theorem Json.size_pos (v : Json) : 0 < v.size := by
  cases v <;> simp [Json.size]

theorem Json.sizeMembers_append (a b : List (String × Json)) :
    Json.sizeMembers (a ++ b) = Json.sizeMembers a + Json.sizeMembers b := by
  induction a with
  | nil => simp [Json.sizeMembers]
  | cons m ms ih =>
    obtain ⟨k, v⟩ := m
    simp [Json.sizeMembers, ih]
    omega

theorem Json.size_le_of_get? {ms : Json.Members} {name : String} {v : Json}
    (h : Json.Members.get? ms name = some v) : v.size ≤ Json.sizeMembers ms := by
  induction ms with
  | nil => simp [Json.Members.get?] at h
  | cons m ms ih =>
    obtain ⟨k, w⟩ := m
    simp only [Json.Members.get?] at h
    simp only [Json.sizeMembers]
    split at h
    · cases h
      omega
    · have := ih h
      omega

theorem sizeMembers_nested_lt (entry : Json) : Json.sizeMembers (nested entry) < entry.size := by
  unfold nested
  split
  · next ms h =>
    cases entry with
    | object es =>
      have hle : (Json.object ms).size ≤ Json.sizeMembers es := Json.size_le_of_get? h
      simp only [Json.size] at hle ⊢
      omega
    | _ => simp [Json.get?] at h
  · exact entry.size_pos

theorem Tree.belowRecords_eq (ms : List (String × Json)) :
    Tree.belowRecords ms = Tree.preorder (nested (.object ms)) := by
  induction ms with
  | nil => simp [Tree.belowRecords, nested, Json.get?, Json.Members.get?, Tree.preorder]
  | cons m ms ih =>
    obtain ⟨k, v⟩ := m
    by_cases hk : k = "dependencies"
    · subst hk
      cases v <;> simp [Tree.belowRecords, Tree.tableRecords, nested, Json.get?, Json.Members.get?, Tree.preorder]
    · have : nested (.object ((k, v) :: ms)) = nested (.object ms) := by
        simp [nested, Json.get?, Json.Members.get?, hk]
      rw [this, ← ih, Tree.belowRecords, if_neg hk]

theorem Tree.entryRecords_eq (name : String) (entry : Json) :
    Tree.entryRecords name entry = (recordOf? name entry).toList ++ Tree.preorder (nested entry) := by
  cases entry with
  | object ms => simp [Tree.entryRecords, Tree.belowRecords_eq]
  | _ => simp [Tree.entryRecords, recordOf?, nested, Json.get?, Tree.preorder]

theorem Tree.preorder_append (a b : List (String × Json)) :
    Tree.preorder (a ++ b) = Tree.preorder a ++ Tree.preorder b := by
  induction a with
  | nil => simp [Tree.preorder]
  | cons m ms ih =>
    obtain ⟨k, v⟩ := m
    simp [Tree.preorder, ih]

/-- Enough fuel makes the walk of pending entries the recursive one. -/
theorem walk_eq_preorder {fuel : Nat} {pending : List (String × Json)}
    (h : Json.sizeMembers pending < fuel) : walk fuel pending = Tree.preorder pending := by
  induction fuel generalizing pending with
  | zero => omega
  | succ fuel ih =>
    cases pending with
    | nil => simp [walk, Tree.preorder]
    | cons m ms =>
      obtain ⟨k, v⟩ := m
      have hn := sizeMembers_nested_lt v
      simp only [Json.sizeMembers] at h
      simp only [walk, Tree.preorder, Tree.entryRecords_eq]
      rw [ih (by rw [Json.sizeMembers_append]; omega), Tree.preorder_append, List.append_assoc]

end MergeGate
