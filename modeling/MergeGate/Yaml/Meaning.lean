import MergeGate.Datum
import MergeGate.Decimal.Numeral
import MergeGate.Text.Base64
import MergeGate.Text.Letter
import MergeGate.Yaml.Kind

/-
  MergeGate/Yaml/Meaning.lean
  ===========================
  **What a scalar means.**  A scalar of a kind denotes a value of that kind.  Underscores in numbers say
  nothing.  Integers are written in base two, eight, ten or sixteen, and integers and fractions
  alike in base sixty, with colons between the figures.

  The form of a plain scalar makes sure that there is a value; under a tag, any text may claim to
  be of a kind, and has none if it is not of its form.
-/

namespace MergeGate.Yaml

open MergeGate.Text MergeGate.Decimal

/-! ### Numbers -/

/-- A number split into its sign and the rest, without underscores. -/
def signed (cs : List Char) : Except Fault (Bool × List Char) :=
  match cs.filter (· != '_') with
  | [] => .error .emptyNumber
  | c :: rest => .ok (if c = '-' then (true, rest) else if c = '+' then (false, rest) else (false, c :: rest))

def integerIn (base : Nat) (cs : List Char) : Except Fault Int :=
  match readInteger base cs with
  | .ok n => .ok n
  | .error .malformed => .error (.badInteger base cs)
  | .error (.tooLong digits) => .error (.integerTooLong digits)

/-- An integer without its sign. -/
def magnitude (cs : List Char) : Except Fault Int :=
  match cs with
  | [] => .error .emptyNumber
  | '0' :: 'b' :: rest => integerIn 2 rest
  | '0' :: 'x' :: rest => integerIn 16 rest
  | '0' :: rest => if rest.isEmpty then .ok 0 else integerIn 8 cs
  | _ =>
    if cs.contains ':' then do
      let figures ← (splitAt (· == ':') cs).mapM (integerIn 10)
      return figures.foldl (fun n f => n * 60 + f) 0
    else integerIn 10 cs

def integerOf (cs : List Char) : Except Fault Datum := do
  let (negative, cs) ← signed cs
  let n ← magnitude cs
  return .int (if negative then -n else n)

/-- A number with a fraction. -/
def fractionIn (cs : List Char) : Except Fault Binary :=
  match Binary.ofText? cs with
  | some x => .ok x
  | none => .error (.badFraction cs)

/-- The sum of figures in base sixty, the last one first; `base` is what the next one counts. -/
def sixtySum (base : Nat) (sum : Binary) : List Binary → Except Fault Binary
  | [] => .ok sum
  | x :: xs =>
    let weight := Binary.ofNat base
    if weight.isInfinite then .error .numberTooLarge else sixtySum (base * 60) (sum.add (x.mul weight)) xs

def fractionOf (cs : List Char) : Except Fault Datum := do
  let (negative, cs) ← signed (cs.map lower)
  let x ←
    if cs == ".inf".toList then pure Binary.infinity
    else if cs == ".nan".toList then pure Binary.notANumber
    else if cs.contains ':' then do
      let figures ← (splitAt (· == ':') cs).mapM fractionIn
      sixtySum 1 (.ofNat 0) figures.reverse
    else fractionIn cs
  return .number (if negative && x ≠ .notANumber then x.negated else x)

/-! ### Other scalars -/

/-- The truth value of a scalar. -/
def truthOf (cs : List Char) : Except Fault Datum :=
  let word := cs.map lower
  if ["yes", "true", "on"].any (·.toList == word) then .ok (.bool true)
  else if ["no", "false", "off"].any (·.toList == word) then .ok (.bool false)
  else .error (.unknownTruth word)

def octetsOf (cs : List Char) : Except Fault Datum :=
  match octetsOfBase64? cs with
  | some bs => .ok (.octets bs)
  | none => .error .malformed

/-- The date or moment of a scalar. -/
def stampOf (cs : List Char) : Except Fault Datum :=
  match Stamp.ofText? cs with
  | none => .error .badTimestamp
  | some s =>
    match s.time with
    | none => (s.date.mapError .badDate).map .date
    | some t => (s.moment t |>.mapError .badDate).map .moment

/-- The value of a scalar of a kind; collections have none. -/
def meaning (kind : Kind) (cs : List Char) : Except Fault Datum :=
  match kind with
  | .null => .ok .null
  | .truth => truthOf cs
  | .integer => integerOf cs
  | .fraction => fractionOf cs
  | .octets => octetsOf cs
  | .stamp => stampOf cs
  | .text => .ok (.text (String.ofList cs))
  | _ => .error .malformed

end MergeGate.Yaml
