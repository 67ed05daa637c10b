import MergeGate.Decimal.Binary

/-
  MergeGate/Decimal/Shortest.lean
  ===============================
  **The fewest digits that read back.**  A number is written with as few significant digits as
  bring the same number back when read, and of the decimals with so many digits with the one
  nearest to it.  `Binary.text` lays them out: positionally from 10^-4 up to below 10^16, with at
  least one digit after the point, otherwise with a signed exponent of at least two digits.
-/

namespace MergeGate.Decimal

open MergeGate.Text

/-- The decimal `m * 10 ^ e`. -/
structure Scaled where
  m : Nat
  e : Int
  deriving DecidableEq, Repr

/-- `m * 2 ^ q` as a quotient. -/
def ratioOf (m : Nat) (q : Int) : Nat × Nat :=
  if 0 ≤ q then (m * Nat.pow 2 q.toNat, 1) else (m, Nat.pow 2 (-q).toNat)

/-- The quotient of a ratio by `10 ^ k`. -/
def overTen (r : Nat × Nat) (k : Int) : Nat × Nat :=
  if 0 ≤ k then (r.1, r.2 * Nat.pow 10 k.toNat) else (r.1 * Nat.pow 10 (-k).toNat, r.2)

/-- The least `k` from `start` on with the ratio below `10 ^ k`. -/
def tenScaleFrom (r : Nat × Nat) : Nat → Int → Int
  | 0, k => k
  | fuel + 1, k =>
    let s := overTen r k
    if s.1 < s.2 then k else tenScaleFrom r fuel (k + 1)

/-- The least `k` with the ratio below `10 ^ k`; the start is below it by at most three. -/
def tenScale (r : Nat × Nat) : Int :=
  let log : Int := (r.1.log2 : Int) - (r.2.log2 : Int)
  tenScaleFrom r 8 (log * 30103 / 100000 - 1)

/-- Whether a decimal is read as the magnitude given by its bits. -/
def readsAs (magnitude : Nat) (d : Scaled) : Bool :=
  let r := if 0 ≤ d.e then (d.m * Nat.pow 10 d.e.toNat, 1) else (d.m, Nat.pow 10 (-d.e).toNat)
  magnitudeOfRatio r.1 r.2 = magnitude

/-- The nearer of the two neighbours of the ratio on the grid of `10 ^ k` that read back. -/
def onGrid (magnitude : Nat) (r : Nat × Nat) (k : Int) : Option Scaled :=
  let s := overTen r k
  let below : Scaled := ⟨s.1 / s.2, k⟩
  let above : Scaled := ⟨s.1 / s.2 + 1, k⟩
  let rest := s.1 % s.2
  let nearBelow := 2 * rest < s.2 || (2 * rest = s.2 && below.m % 2 = 0)
  let fst := if nearBelow then below else above
  let snd := if nearBelow then above else below
  if readsAs magnitude fst then some fst
  else if readsAs magnitude snd then some snd
  else none

/-- The first grid with a hit, the grids getting finer. -/
def searchGrids (magnitude : Nat) (r : Nat × Nat) : Nat → Int → Option Scaled
  | 0, _ => none
  | fuel + 1, k =>
    match onGrid magnitude r k with
    | some d => some d
    | none => searchGrids magnitude r fuel (k - 1)

/-- The digits of `m * 2 ^ q`, which is not zero; all of them if no shorter row reads back. -/
def shortest (m : Nat) (q : Int) : Scaled :=
  let r := ratioOf m q
  let k := tenScale r
  match searchGrids (magnitudeOfRatio r.1 r.2) r 17 (k - 1) with
  | some d => d
  | none => if 0 ≤ q then ⟨r.1, 0⟩ else ⟨m * Nat.pow 5 (-q).toNat, q⟩

/-- Digits without the zeros at their end, each of which raises the exponent. -/
def dropZeros : Nat → Scaled → Scaled
  | 0, d => d
  | fuel + 1, d => if d.m ≠ 0 ∧ d.m % 10 = 0 then dropZeros fuel ⟨d.m / 10, d.e + 1⟩ else d

/-! ### Layout -/

/-- How a decimal is laid out: from which power of ten on, and up to which, it is positional, and
the least number of digits of an exponent. -/
structure Layout where
  positionalFrom : Int
  positionalTo : Int
  exponentDigits : Nat

/-- Numbers are positional from `10 ^ -4` on and below `10 ^ 16`; exponents have two digits. -/
def plain : Layout := ⟨-4, 16, 2⟩

/-- Digits of an exponent, padded with zeros. -/
def exponentText (width n : Nat) : List Char :=
  let ds := numeral n
  List.replicate (width - ds.length) '0' ++ ds

/-- The text of a decimal that is not negative. -/
def layout (style : Layout) (d : Scaled) : List Char :=
  let d := dropZeros 400 d
  let ds := numeral d.m
  -- the value is `0.ds * 10 ^ point`
  let point : Int := d.e + ds.length
  if d.m = 0 then ['0', '.', '0']
  else if style.positionalFrom < point ∧ point ≤ style.positionalTo then
    if point ≤ 0 then '0' :: '.' :: List.replicate (-point).toNat '0' ++ ds
    else if (ds.length : Int) ≤ point then
      ds ++ List.replicate (point.toNat - ds.length) '0' ++ ['.', '0']
    else ds.take point.toNat ++ '.' :: ds.drop point.toNat
  else
    let e := point - 1
    let head := match ds with
      | [] => []
      | [c] => [c]
      | c :: cs => c :: '.' :: cs
    head ++ 'e' :: (if e < 0 then '-' else '+') :: exponentText style.exponentDigits e.natAbs

/-- The text of a number, without a sign for its magnitude; the three words are those for
infinity and for no number. -/
def Binary.textWith (infinity notANumber : String) (x : Binary) : List Char :=
  match x.parts with
  | .notANumber => notANumber.toList
  | .infinite negative => (if negative then ['-'] else []) ++ infinity.toList
  | .finite negative m q =>
    (if negative then ['-'] else []) ++ (if m = 0 then ['0', '.', '0'] else layout plain (shortest m q))

/-- The text of a number among the values of a policy or a report. -/
def Binary.text (x : Binary) : List Char := x.textWith "inf" "nan"

end MergeGate.Decimal
