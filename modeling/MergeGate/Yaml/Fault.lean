import MergeGate.Calendar
import MergeGate.Text.Integer
import MergeGate.Text.Quoted

/-
  MergeGate/Yaml/Fault.lean
  =========================
  **Why a YAML text has no value.**  Most faults are violations of the format, and nothing more is said
  of them.  The others come from a scalar that has the form of a number, a date or a truth value
  and denotes none, or from nesting that is too deep.
-/

namespace MergeGate.Yaml

open MergeGate.Text MergeGate.Calendar

/-- Why a text has no value. -/
inductive Fault where
  | malformed
  | tooDeep
  /-- An escape gives a code point that does not exist, perhaps one of more than 31 bits. -/
  | codeTooLarge (isWide : Bool)
  | badDate (fault : RangeFault)
  | badTimestamp
  | badInteger (base : Nat) (shown : List Char)
  | integerTooLong (digits : Nat)
  | badFraction (shown : List Char)
  | emptyNumber
  | numberTooLarge
  | unknownTruth (shown : List Char)
  deriving DecidableEq, Repr

/-- How much of a text is shown that is no integer. -/
def shownLimit : Nat := 200

/-- The sentence that tells of a fault. -/
def Fault.message : Fault → String
  | .malformed => "not valid YAML"
  | .tooDeep => "maximum recursion depth exceeded"
  | .codeTooLarge false => "chr() arg not in range(0x110000)"
  | .codeTooLarge true => "Python int too large to convert to C int"
  | .badDate fault => fault.message
  | .badTimestamp => "'NoneType' object has no attribute 'groupdict'"
  | .badInteger base shown =>
    "invalid literal for int() with base " ++ toString base ++ ": "
      ++ String.ofList ((quote shown).take shownLimit)
  | .integerTooLong digits => digitLimitMessage digits
  | .badFraction shown => "could not convert string to float: " ++ String.ofList (quote shown)
  | .emptyNumber => "string index out of range"
  | .numberTooLarge => "int too large to convert to float"
  | .unknownTruth shown => String.ofList (quote shown)

end MergeGate.Yaml
