import MergeGate.Text.Printable

/-
  MergeGate/Text/Quoted.lean
  ==========================
  **Quoted texts.**  Reports show a text value between quotation marks.  The marks are single
  ones, unless the text holds a single mark and no double one.  Inside, the mark in use and the
  backslash are escaped by a backslash, line feed, carriage return and tab are `\n`, `\r` and
  `\t`, and any other character that is not printable is written by its code point with two,
  four or eight hexadecimal digits.

  `quote` does this for texts, `quoteBytes` for octets, which are all shown by two digits unless
  they are printable ASCII.
-/

namespace MergeGate.Text

/-- The lower-case hexadecimal digit of a value below sixteen. -/
def hexDigit (n : Nat) : Char :=
  if n < 10 then Char.ofNat (48 + n) else Char.ofNat (87 + n)

/-- The last `width` hexadecimal digits of `n`. -/
def hex : Nat → Nat → List Char
  | 0, _ => []
  | width + 1, n => hex width (n / 16) ++ [hexDigit (n % 16)]

/-- The value of a hexadecimal digit in either case. -/
def hexValue? (c : Char) : Option Nat :=
  let n := c.toNat
  if 48 ≤ n && n ≤ 57 then some (n - 48)
  else if 97 ≤ n && n ≤ 102 then some (n - 87)
  else if 65 ≤ n && n ≤ 70 then some (n - 55)
  else none

/-- The mark that quotes a text: a double one only if that saves an escape. -/
def quoteMark (cs : List Char) : Char :=
  if cs.contains '\x27' && !cs.contains '\x22' then '\x22' else '\x27'

/-- A character by its code point, in the shortest of the three widths. -/
def codeEscape (n : Nat) : List Char :=
  if n < 0x100 then '\\' :: 'x' :: hex 2 n
  else if n < 0x10000 then '\\' :: 'u' :: hex 4 n
  else '\\' :: 'U' :: hex 8 n

/-- A character inside a text quoted by `mark`. -/
def quoteChar (mark : Char) (c : Char) : List Char :=
  if c = mark || c = '\\' then ['\\', c]
  else if c = '\n' then ['\\', 'n']
  else if c = '\r' then ['\\', 'r']
  else if c = '\t' then ['\\', 't']
  else if isPrintable c then [c]
  else codeEscape c.toNat

/-- A text between its quotation marks. -/
def quote (cs : List Char) : List Char :=
  let mark := quoteMark cs
  mark :: cs.flatMap (quoteChar mark) ++ [mark]

/-- `quote` on stored texts. -/
def quoted (s : String) : String := String.ofList (quote s.toList)

/-- An octet inside octets quoted by `mark`. -/
def quoteByte (mark : Char) (b : UInt8) : List Char :=
  let c := Char.ofNat b.toNat
  if b.toNat < 128 then quoteChar mark c else '\\' :: 'x' :: hex 2 b.toNat

/-- Octets between quotation marks, after the letter `b`. -/
def quoteBytes (bs : List UInt8) : List Char :=
  let mark := quoteMark (bs.map fun b => Char.ofNat b.toNat)
  'b' :: mark :: bs.flatMap (quoteByte mark) ++ [mark]

/-- A text between backquotes, as reports show names, paths and patterns. -/
def ticked (s : String) : String := "`" ++ s ++ "`"

end MergeGate.Text
