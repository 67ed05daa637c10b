import MergeGate.Text.Blank

/-
  MergeGate/Text/Digit.lean
  =========================
  **Decimal digits and the numerals made of them.**  A version number may be written with the
  decimal digits of any script (Unicode category Nd).  Each script has its ten digits in
  order in one row, so a row is given by the code point of its zero.

  `digitValue?` gives the value of a digit, `numeralValue` the value of a row of digits read
  in base ten, and `numeral` writes a number with ASCII digits.
-/

namespace MergeGate.Text

/-- The zeros of the digit rows outside ASCII, in increasing order. -/
def zeroRows : List Nat :=
  [
   0x660, 0x6f0, 0x7c0, 0x966, 0x9e6, 0xa66, 0xae6, 0xb66, 0xbe6, 0xc66, 0xce6, 0xd66, 0xde6,
   0xe50, 0xed0, 0xf20, 0x1040, 0x1090, 0x17e0, 0x1810, 0x1946, 0x19d0, 0x1a80, 0x1a90, 0x1b50,
   0x1bb0, 0x1c40, 0x1c50, 0xa620, 0xa8d0, 0xa900, 0xa9d0, 0xa9f0, 0xaa50, 0xabf0, 0xff10,
   0x104a0, 0x10d30, 0x11066, 0x110f0, 0x11136, 0x111d0, 0x112f0, 0x11450, 0x114d0, 0x11650,
   0x116c0, 0x11730, 0x118e0, 0x11950, 0x11c50, 0x11d50, 0x11da0, 0x16a60, 0x16ac0, 0x16b50,
   0x1d7ce, 0x1d7d8, 0x1d7e2, 0x1d7ec, 0x1d7f6, 0x1e140, 0x1e2f0, 0x1e950, 0x1fbf0]

/-- Whether `c` is one of `0` to `9`. -/
def isAsciiDigit (c : Char) : Bool := 48 ≤ c.toNat && c.toNat ≤ 57

/-- The value of a decimal digit of any script. -/
def digitValue? (c : Char) : Option Nat :=
  let n := c.toNat
  if n < 128 then
    if isAsciiDigit c then some (n - 48) else none
  else (zeroRows.find? fun z => z ≤ n && n < z + 10).map (n - ·)

/-- Whether `c` is a decimal digit of any script. -/
def isDigit (c : Char) : Bool := (digitValue? c).isSome

/-- The value of a digit, zero for any other character. -/
def digitValue (c : Char) : Nat := (digitValue? c).getD 0

/-- The number that a row of digits denotes in base ten. -/
def numeralValue (cs : List Char) : Nat := cs.foldl (fun n c => n * 10 + digitValue c) 0

/-- A number in ASCII digits, without leading zeros. -/
def numeral (n : Nat) : List Char := Nat.toDigits 10 n

/-- An integer in ASCII digits, with a sign when it is negative. -/
def integer (n : Int) : List Char :=
  if n < 0 then '-' :: numeral n.natAbs else numeral n.natAbs

/-- The ASCII letters. -/
def isAsciiLetter (c : Char) : Bool :=
  (65 ≤ c.toNat && c.toNat ≤ 90) || (97 ≤ c.toNat && c.toNat ≤ 122)

theorem isDigit_of_isAsciiDigit {c : Char} (h : isAsciiDigit c = true) : isDigit c = true := by
  have h' := h
  simp only [isAsciiDigit, Bool.and_eq_true, decide_eq_true_eq] at h'
  have hn : c.toNat < 128 := by omega
  simp [isDigit, digitValue?, h, hn]

end MergeGate.Text
