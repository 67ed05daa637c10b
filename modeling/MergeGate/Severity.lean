import MergeGate.Text.Blank

/-
  MergeGate/Severity.lean
  =======================
  **Severities.**  A violation is a warning or an error, and an error outranks a warning.  Policies
  and reports write a severity as they like: the words `warn` and `warning`, in any case and with
  blanks around them, mean a warning, and everything else means an error, so a mistake in a policy
  never softens it (`Level.meaning_eq_warn_iff`).
-/

namespace MergeGate

open MergeGate.Text

/-- How grave a violation is. -/
inductive Severity where
  | warn
  | error
  deriving DecidableEq, Repr, Inhabited

namespace Severity

/-- The rank of a severity; the graver, the higher. -/
def rank : Severity → Nat
  | .warn => 1
  | .error => 2

def label : Severity → String
  | .warn => "warn"
  | .error => "error"

/-- The word in capitals. -/
def loudLabel : Severity → String
  | .warn => "WARN"
  | .error => "ERROR"

/-- The word with a capital at its front. -/
def title : Severity → String
  | .warn => "Warn"
  | .error => "Error"

/-- The severities, the gravest first. -/
def ordered : List Severity := [.error, .warn]

def ofLabel? (s : String) : Option Severity :=
  if s = "warn" then some .warn else if s = "error" then some .error else none

theorem mem_ordered (s : Severity) : s ∈ ordered := by
  cases s <;> simp [ordered]

end Severity

/-- A severity as it is written down: one of the two, some text, or a value of another kind. -/
inductive Level where
  | severity (s : Severity)
  | text (s : String)
  | other
  deriving DecidableEq, Repr, Inhabited

namespace Level

/-- Whether a text says that something is a warning. -/
def isWarnWord (s : String) : Bool :=
  let w := (trim s.toList).map lowerAscii
  w == "warn".toList || w == "warning".toList

def meaning : Level → Severity
  | .severity s => s
  | .text s => if isWarnWord s then .warn else .error
  | .other => .error

/-- What a severity means that may be absent: an error if it is. -/
def ofOption : Option Level → Severity
  | none => .error
  | some l => l.meaning

/-- Only the severity itself and the two words mean a warning. -/
theorem meaning_eq_warn_iff (l : Level) :
    l.meaning = .warn ↔ l = .severity .warn ∨ ∃ s, l = .text s ∧ isWarnWord s = true := by
  cases l with
  | severity s => simp [meaning]
  | text s =>
    by_cases h : isWarnWord s = true <;> simp [meaning, h]
  | other => simp [meaning]

end Level

end MergeGate
