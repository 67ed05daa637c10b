import MergeGate.Text.Digit

/-
  MergeGate/Text/Lines.lean
  =========================
  **Lines of a text.**  A policy file is read with all three line ends (line feed, carriage
  return, both) taken as a line feed.  What the gate prints is handed over line by line; there
  a line ends at any of the line ends of Unicode.
-/

namespace MergeGate.Text

/-- A text in which every line end is a line feed. -/
def unifyLineEnds : List Char → List Char
  | [] => []
  | '\r' :: '\n' :: cs => '\n' :: unifyLineEnds cs
  | '\r' :: cs => '\n' :: unifyLineEnds cs
  | c :: cs => c :: unifyLineEnds cs

/-- The characters that end a line of output. -/
def isLineEnd (c : Char) : Bool :=
  let n := c.toNat
  (10 ≤ n && n ≤ 13) || (28 ≤ n && n ≤ 30) || n == 0x85 || n == 0x2028 || n == 0x2029

/-- The lines of a text, without their ends; `line` is what the current line has so far, in
reverse.  A text that ends with a line end has no empty line after it. -/
def linesFrom (line : List Char) : List Char → List (List Char)
  | [] => if line.isEmpty then [] else [line.reverse]
  | '\r' :: '\n' :: cs => line.reverse :: linesFrom [] cs
  | c :: cs => if isLineEnd c then line.reverse :: linesFrom [] cs else linesFrom (c :: line) cs

def lines (cs : List Char) : List (List Char) := linesFrom [] cs

/-- Where a place in a text lies: its line and column, both counted from one, and its distance
from the start.  Only a line feed begins a new line. -/
structure Place where
  line : Nat
  column : Nat
  offset : Nat
  deriving DecidableEq, Repr

/-- The place that follows the characters read. -/
def placeAfter : Place → List Char → Place
  | p, [] => p
  | p, c :: cs =>
    placeAfter (if c = '\n' then ⟨p.line + 1, 1, p.offset + 1⟩ else ⟨p.line, p.column + 1, p.offset + 1⟩) cs

/-- The place of the character number `offset` of a text. -/
def placeAt (cs : List Char) (offset : Nat) : Place := placeAfter ⟨1, 1, 0⟩ (cs.take offset)

end MergeGate.Text
