import MergeGate.Text.Digit

/-
  MergeGate/Decimal/Binary.lean
  =============================
  **Binary numbers of 64 bits.**  Numbers with a fraction occur in policy files and in report
  data.  A `Binary` keeps the 64 bits, so two of them are equal exactly when they are the same
  number, sign of zero included.

  `Binary.parts` takes a finite one apart into a sign, a natural number and a power of two;
  `Binary.ofRatio` is the nearest number to a quotient of naturals, a tie going to the even
  neighbour, and `Binary.ofDecimal` the nearest to a decimal.  All of it is exact arithmetic of
  natural numbers.
-/

namespace MergeGate.Decimal

open MergeGate.Text

/-- A binary number, by its bits. -/
structure Binary where
  bits : UInt64
  deriving DecidableEq, Repr, Inhabited

/-- What the bit of the sign counts. -/
def signWeight : Nat := Nat.pow 2 63

/-- What the lowest bit of the exponent counts. -/
def exponentWeight : Nat := Nat.pow 2 52

/-- What a number is: `m * 2 ^ q` with a sign, an infinity, or no number at all. -/
inductive Parts where
  | finite (negative : Bool) (m : Nat) (q : Int)
  | infinite (negative : Bool)
  | notANumber
  deriving DecidableEq, Repr

/-- The number taken apart. -/
def Binary.parts (x : Binary) : Parts :=
  let n := x.bits.toNat
  let negative : Bool := n / signWeight = 1
  let e : Nat := n / exponentWeight % 2048
  let f : Nat := n % exponentWeight
  if e = 2047 then (if f = 0 then .infinite negative else .notANumber)
  else if e = 0 then .finite negative f (-1074)
  else .finite negative (f + exponentWeight) (Int.ofNat e - 1075)

def infinityBits : Nat := 2047 * exponentWeight

/-- Puts a sign to the bits of a magnitude. -/
def withSign (negative : Bool) (magnitude : Nat) : Binary :=
  ⟨(if negative then magnitude + signWeight else magnitude).toUInt64⟩

/-- Positive infinity. -/
def Binary.infinity : Binary := withSign false infinityBits

/-- No number. -/
def Binary.notANumber : Binary := withSign false (infinityBits + Nat.pow 2 51)

/-- The quotient rounded to the nearest natural number, a tie to the even one. -/
def divNearest (num den : Nat) : Nat :=
  let q := num / den
  let r := num % den
  if 2 * r < den then q
  else if den < 2 * r then q + 1
  else if q % 2 = 0 then q else q + 1

/-- The quotient of `num` and `den * 2 ^ k`, as a numerator and a denominator. -/
def scaled (num den : Nat) (k : Int) : Nat × Nat :=
  if 0 ≤ k then (num, den * Nat.pow 2 k.toNat) else (num * Nat.pow 2 (-k).toNat, den)

/-- The power of two that brings the quotient into the range from `2 ^ 52` to `2 ^ 53`, but not
below the least power there is. -/
def binaryScale (num den : Nat) : Int :=
  let k : Int := (num.log2 : Int) - (den.log2 : Int) - 52
  let s := scaled num den k
  let k := if s.1 / s.2 < exponentWeight then k - 1 else if 2 * exponentWeight ≤ s.1 / s.2 then k + 1 else k
  max k (-1074)

/-- The bits of the magnitude nearest to `num / den`. -/
def magnitudeOfRatio (num den : Nat) : Nat :=
  if num = 0 then 0
  else
    let k := binaryScale num den
    let s := scaled num den k
    min ((k + 1074).toNat * exponentWeight + divNearest s.1 s.2) infinityBits

/-- The number nearest to a quotient. -/
def Binary.ofRatio (negative : Bool) (num den : Nat) : Binary :=
  withSign negative (magnitudeOfRatio num den)

/-- The number nearest to `m * 10 ^ e`, where `m` is written with `width` digits. -/
def Binary.ofDecimal (negative : Bool) (m width : Nat) (e : Int) : Binary :=
  if m = 0 then withSign negative 0
  else if 400 < e + width then withSign negative infinityBits
  else if e + width < -400 then withSign negative 0
  else if 0 ≤ e then .ofRatio negative (m * Nat.pow 10 e.toNat) 1
  else .ofRatio negative m (Nat.pow 10 (-e).toNat)

/-- The number nearest to a decimal with the given digits, whose last one counts `10 ^ e`. -/
def Binary.ofDigits (negative : Bool) (digits : List Char) (e : Int) : Binary :=
  let ds := digits.dropWhile fun c => digitValue c = 0
  .ofDecimal negative (numeralValue ds) ds.length e

/-- The number with the other sign. -/
def Binary.negated (x : Binary) : Binary :=
  if x.bits.toNat < signWeight then ⟨(x.bits.toNat + signWeight).toUInt64⟩
  else ⟨(x.bits.toNat - signWeight).toUInt64⟩

/-- Whether the number is a zero of either sign. -/
def Binary.isZero (x : Binary) : Bool := x.bits.toNat % signWeight = 0

/-- The sum of two numbers. -/
def Binary.add (x y : Binary) : Binary := ⟨(Float.ofBits x.bits + Float.ofBits y.bits).toBits⟩

/-- The product of two numbers. -/
def Binary.mul (x y : Binary) : Binary := ⟨(Float.ofBits x.bits * Float.ofBits y.bits).toBits⟩

/-- The number nearest to a natural number. -/
def Binary.ofNat (n : Nat) : Binary := .ofRatio false n 1

/-- Whether a number is infinite. -/
def Binary.isInfinite (x : Binary) : Bool := x.bits.toNat % signWeight = infinityBits

/-- The integer that a number is, if it is one. -/
def Binary.integer? (x : Binary) : Option Int :=
  match x.parts with
  | .finite negative m q =>
    let n := m * Nat.pow 2 q.toNat / Nat.pow 2 (-q).toNat
    if n * Nat.pow 2 (-q).toNat = m * Nat.pow 2 q.toNat then some (if negative then -(n : Int) else n) else none
  | _ => none

end MergeGate.Decimal
