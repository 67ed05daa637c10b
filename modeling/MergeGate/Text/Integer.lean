import MergeGate.Text.Digit

/-
  MergeGate/Text/Integer.lean
  ===========================
  **Reading integers.**  An integer is written with an optional sign and digits, single underscores
  may stand between digits, and blanks around the whole are dropped.  The digits may be those of
  any script, and letters continue them in bases above ten.  A numeral of base two, eight or
  sixteen may carry its mark (`0b`, `0o`, `0x`).

  Bases that are no power of two are limited to `digitLimit` digits.
-/

namespace MergeGate.Text

/-- How many digits an integer of base ten may have. -/
def digitLimit : Nat := 4300

/-- The sentence for an integer with too many digits. -/
def digitLimitMessage (count : Nat) : String :=
  "Exceeds the limit (4300 digits) for integer string conversion: value has " ++ toString count
    ++ " digits; use sys.set_int_max_str_digits() to increase the limit"

/-- Why a text is no integer. -/
inductive NumeralFault where
  | malformed
  | tooLong (digits : Nat)
  deriving DecidableEq, Repr

/-- A blank that may surround an integer; the information separators are none. -/
def isNumeralBlank (c : Char) : Bool := isBlank c && !(28 ≤ c.toNat && c.toNat ≤ 31)

def digitIn? (base : Nat) (c : Char) : Option Nat :=
  let value :=
    match digitValue? c with
    | some d => some d
    | none =>
      if 'a' ≤ c ∧ c ≤ 'z' then some (c.toNat - 87)
      else if 'A' ≤ c ∧ c ≤ 'Z' then some (c.toNat - 55)
      else none
  value.filter (· < base)

/-- Reads digits with single underscores between them, which `afterDigit` asks for. -/
def readDigits (base : Nat) : Nat → Bool → List Char → Option Nat
  | n, afterDigit, [] => if afterDigit then some n else none
  | n, afterDigit, c :: cs =>
    if c = '_' then (if afterDigit then readDigits base n false cs else none)
    else
      match digitIn? base c with
      | some d => readDigits base (n * base + d) true cs
      | none => none

/-- The letter that marks a numeral of a base. -/
def baseMark? (base : Nat) : Option Char :=
  if base = 2 then some 'b' else if base = 8 then some 'o' else if base = 16 then some 'x' else none

/-- A numeral without the mark of its base, and without the underscore that may follow the mark. -/
def dropBaseMark (base : Nat) : List Char → List Char
  | '0' :: c :: cs =>
    if baseMark? base = some (lowerAscii c) then
      match cs with
      | '_' :: rest => rest
      | _ => cs
    else '0' :: c :: cs
  | cs => cs

def isLimited (base : Nat) : Bool := (baseMark? base).isNone

/-- How many digits a text begins with, underscores apart. -/
def leadingDigits (base : Nat) (cs : List Char) : Nat :=
  ((cs.takeWhile fun c => c == '_' || (digitIn? base c).isSome).filter (· != '_')).length

def readNumeral (base : Nat) (cs : List Char) : Except NumeralFault Nat :=
  let cs := dropBaseMark base cs
  let digits := leadingDigits base cs
  if isLimited base && digitLimit < digits then .error (.tooLong digits)
  else
    match readDigits base 0 false cs with
    | some n => .ok n
    | none => .error .malformed

def readInteger (base : Nat) (cs : List Char) : Except NumeralFault Int :=
  let cs := ((cs.dropWhile isNumeralBlank).reverse.dropWhile isNumeralBlank).reverse
  match cs with
  | '-' :: rest => (readNumeral base rest).map fun n => -(n : Int)
  | '+' :: rest => (readNumeral base rest).map fun n => (n : Int)
  | rest => (readNumeral base rest).map fun n => (n : Int)

end MergeGate.Text
