import MergeGate.Json.Value
import MergeGate.Text.Quoted

/-
  MergeGate/Json/Writer.lean
  ==========================
  **Writing JSON.**  `Json.write` gives the text of a value.  Without an indent it has no gaps;
  with an indent each item and each member stands on a line of its own, indented by its depth
  times the indent (a negative indent counts as none), and a blank follows the colon.  Characters
  outside ASCII are written as they are.

  `Json.sorted` puts the members of every object into the order of their names by code points.
-/

namespace MergeGate.Json

open MergeGate.Text MergeGate.Decimal

/-- A character inside a written text. -/
def escapeChar (c : Char) : List Char :=
  if c = '\x22' then ['\\', '\x22']
  else if c = '\\' then ['\\', '\\']
  else if c = '\n' then ['\\', 'n']
  else if c = '\r' then ['\\', 'r']
  else if c = '\t' then ['\\', 't']
  else if c = '\x0c' then ['\\', 'f']
  else if c = '\x08' then ['\\', 'b']
  else if c.toNat < 0x20 then '\\' :: 'u' :: hex 4 c.toNat
  else [c]

/-- A text between its marks. -/
def writeText (s : String) : List Char :=
  '\x22' :: s.toList.flatMap escapeChar ++ ['\x22']

/-- The text of a number with a fraction. -/
def writeNumber (x : Binary) : List Char := x.textWith "Infinity" "NaN"

/-- What stands before an item at a depth: a new line and its indent. -/
def lineBreak (indent : Option Int) (depth : Nat) : List Char :=
  match indent with
  | none => []
  | some n => '\n' :: List.replicate (n.toNat * depth) ' '

/-- What stands between the name and the value of a member. -/
def colon (indent : Option Int) : List Char :=
  match indent with
  | none => [':']
  | some _ => [':', ' ']

mutual

/-- The text of a value that stands at a depth. -/
def writeAt (indent : Option Int) (depth : Nat) : Json → List Char
  | .null => ['n', 'u', 'l', 'l']
  | .bool true => ['t', 'r', 'u', 'e']
  | .bool false => ['f', 'a', 'l', 's', 'e']
  | .int n => integer n
  | .number x => writeNumber x
  | .text s => writeText s
  | .list [] => ['[', ']']
  | .list (x :: xs) =>
    '[' :: (lineBreak indent (depth + 1) ++ writeAt indent (depth + 1) x
      ++ (writeItems indent (depth + 1) xs ++ (lineBreak indent depth ++ [']'])))
  | .object [] => ['\x7b', '\x7d']
  | .object ((k, v) :: ms) =>
    '\x7b' :: (lineBreak indent (depth + 1) ++ writeText k ++ colon indent ++ writeAt indent (depth + 1) v
      ++ (writeMembers indent (depth + 1) ms ++ (lineBreak indent depth ++ ['\x7d'])))

/-- The items after the first, each with the comma before it. -/
def writeItems (indent : Option Int) (depth : Nat) : List Json → List Char
  | [] => []
  | x :: xs => ',' :: (lineBreak indent depth ++ writeAt indent depth x ++ writeItems indent depth xs)

/-- The members after the first, each with the comma before it. -/
def writeMembers (indent : Option Int) (depth : Nat) : List (String × Json) → List Char
  | [] => []
  | (k, v) :: ms =>
    ',' :: (lineBreak indent depth ++ writeText k ++ colon indent ++ writeAt indent depth v
      ++ writeMembers indent depth ms)

end

/-- The text of a value. -/
def write (indent : Option Int) (v : Json) : List Char := writeAt indent 0 v

/-- The text of a value without gaps. -/
def writeCompact (v : Json) : String := String.ofList (write none v)

/-! ### Sorting members -/

/-- The order of texts by code points. -/
def textLe (a b : String) : Bool := a ≤ b

mutual

/-- The value with the members of every object in the order of their names. -/
def sorted : Json → Json
  | .list xs => .list (sortedItems xs)
  | .object ms => .object ((sortedMembers ms).mergeSort fun a b => textLe a.1 b.1)
  | v => v

/-- Sorts inside each item. -/
def sortedItems : List Json → List Json
  | [] => []
  | x :: xs => sorted x :: sortedItems xs

/-- Sorts inside each member. -/
def sortedMembers : List (String × Json) → List (String × Json)
  | [] => []
  | (k, v) :: ms => (k, sorted v) :: sortedMembers ms

end

theorem writeText_eq (s : String) :
    writeText s = '\x22' :: (s.toList.flatMap escapeChar ++ ['\x22']) := rfl

end MergeGate.Json
