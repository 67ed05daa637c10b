import MergeGate.Decimal.Binary
import MergeGate.Text.Integer

/-
  MergeGate/Decimal/Numeral.lean
  ==============================
  **Reading numbers with a fraction.**  A number has an optional sign, digits with a point among them or
  none, and perhaps an exponent; `inf`, `infinity` and `nan` in any case are numbers too.  The
  digits may be those of any script, and blanks around the whole are dropped.
-/

namespace MergeGate.Decimal

open MergeGate.Text

/-- The exponent at the end of a number; the end alone is the exponent zero. -/
def exponent? : List Char → Option Int
  | [] => some 0
  | c :: cs =>
    if c = 'e' ∨ c = 'E' then
      let (negative, ds) : Bool × List Char :=
        match cs with
        | '-' :: ds => (true, ds)
        | '+' :: ds => (false, ds)
        | ds => (false, ds)
      if ds.isEmpty || !ds.all isDigit then none
      else some (if negative then -(numeralValue ds : Int) else numeralValue ds)
    else none

/-- The digits after a point, and what follows them; none without a point. -/
def pointDigits : List Char → List Char × List Char
  | '.' :: cs => (cs.takeWhile isDigit, cs.dropWhile isDigit)
  | cs => ([], cs)

/-- A number without a sign. -/
def unsigned? (negative : Bool) (cs : List Char) : Option Binary :=
  let word := String.ofList (cs.map lowerAscii)
  if word = "inf" ∨ word = "infinity" then some (withSign negative infinityBits)
  else if word = "nan" then some .notANumber
  else
    let whole := cs.takeWhile isDigit
    let (tail, rest) := pointDigits (cs.dropWhile isDigit)
    if whole.isEmpty && tail.isEmpty then none
    else (exponent? rest).map fun e => .ofDigits negative (whole ++ tail) (e - tail.length)

/-- The number that a text denotes. -/
def Binary.ofText? (cs : List Char) : Option Binary :=
  let cs := ((cs.dropWhile isNumeralBlank).reverse.dropWhile isNumeralBlank).reverse
  match cs with
  | '-' :: rest => unsigned? true rest
  | '+' :: rest => unsigned? false rest
  | rest => unsigned? false rest

end MergeGate.Decimal
