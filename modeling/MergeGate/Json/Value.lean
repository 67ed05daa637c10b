import MergeGate.Decimal.Shortest

/-
  MergeGate/Json/Value.lean
  =========================
  **JSON values.**  Lock manifests, event payloads, comments and report data are JSON.  Integers
  are kept apart from numbers with a fraction and have any size; the members of an object stay
  in the order of the document.

  `put` adds a member or replaces the value of the one already there, in its place, so an object
  built with it has each name once.  `get?` looks a member up.
-/

namespace MergeGate

open MergeGate.Decimal

inductive Json where
  | null
  | bool (b : Bool)
  | int (n : Int)
  | number (x : Binary)
  | text (s : String)
  | list (items : List Json)
  | object (members : List (String × Json))
  deriving Inhabited

namespace Json

/-- Members of an object, in order. -/
abbrev Members := List (String × Json)

/-- The value of the first member of a name. -/
def Members.get? : Members → String → Option Json
  | [], _ => none
  | (k, v) :: rest, name => if k = name then some v else Members.get? rest name

/-- Gives a member a value: in its place if the name is there, at the end if not. -/
def Members.put : Members → String → Json → Members
  | [], name, v => [(name, v)]
  | (k, w) :: rest, name, v => if k = name then (k, v) :: rest else (k, w) :: Members.put rest name v

/-- The members of an object, of which the last with a name counts and stands at the first place. -/
def Members.ofList (ms : List (String × Json)) : Members :=
  ms.foldl (fun out m => Members.put out m.1 m.2) []

/-- The member of a name, if the value is an object that has one. -/
def get? (v : Json) (name : String) : Option Json :=
  match v with
  | .object ms => Members.get? ms name
  | _ => none

def text? : Json → Option String
  | .text s => some s
  | _ => none

/-- The text, if the value is one that is not empty. -/
def filledText? : Json → Option String
  | .text s => if s = "" then none else some s
  | _ => none

/-- Whether the value counts as true: all but null, false, zeros and what is empty. -/
def isTruthy : Json → Bool
  | .null => false
  | .bool b => b
  | .int n => n ≠ 0
  | .number x => !x.isZero
  | .text s => s ≠ ""
  | .list xs => !xs.isEmpty
  | .object ms => !ms.isEmpty

mutual

/-- Whether two values are the same, the members of objects in the same order. -/
def same : Json → Json → Bool
  | .null, .null => true
  | .bool a, .bool b => a == b
  | .int a, .int b => a == b
  | .number a, .number b => a == b
  | .text a, .text b => a == b
  | .list xs, .list ys => sameList xs ys
  | .object xs, .object ys => sameMembers xs ys
  | _, _ => false

/-- Whether two lists have the same items. -/
def sameList : List Json → List Json → Bool
  | [], [] => true
  | x :: xs, y :: ys => same x y && sameList xs ys
  | _, _ => false

/-- Whether two objects have the same members in the same order. -/
def sameMembers : List (String × Json) → List (String × Json) → Bool
  | [], [] => true
  | (k, x) :: xs, (l, y) :: ys => k == l && same x y && sameMembers xs ys
  | _, _ => false

end

instance : BEq Json := ⟨same⟩

end Json

end MergeGate
