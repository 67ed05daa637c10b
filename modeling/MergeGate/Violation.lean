import MergeGate.Json.Value
import MergeGate.Severity
import MergeGate.Rule

/-
  MergeGate/Violation.lean
  ========================
  **Violations and verdicts.**  A violation is one breach of a rule: which rule, how grave, what
  to say and how to mend it, and the values concerned.  `override` replaces severities by rule;
  nothing else of a violation changes.

  A `Verdict` says whether the gate fails and how the outcome is shown.  The gate fails when some
  violation ranks at or above the threshold.  The status is *pass* without violations, *fail*
  when the gate fails and some violation is an error, and *warn* otherwise.
-/

namespace MergeGate

/-- One breach of a rule. -/
structure Violation where
  rule : String
  severity : Severity
  message : String
  remediation : Option String := none
  context : Json.Members := []
  deriving Inhabited

/-- How an outcome is shown. -/
inductive Status where
  | pass
  | warn
  | fail
  deriving DecidableEq, Repr

def Status.label : Status → String
  | .pass => "pass"
  | .warn => "warn"
  | .fail => "fail"

def Status.ofLabel? (s : String) : Option Status :=
  if s = "pass" then some .pass else if s = "warn" then some .warn else if s = "fail" then some .fail else none

/-- The outcome of an evaluation. -/
structure Verdict where
  status : Status
  failing : Bool
  threshold : Severity
  deriving DecidableEq, Repr

/-! ### Overrides -/

/-- Severities given to rules, as they are written down. -/
abbrev Overrides := List (String × Level)

/-- What is written for a rule. -/
def Overrides.get? : Overrides → String → Option Level
  | [], _ => none
  | (k, l) :: rest, name => if k = name then some l else Overrides.get? rest name

/-- Gives a rule a severity: in its place if the rule is there, at the end if not. -/
def Overrides.put : Overrides → String → Level → Overrides
  | [], name, l => [(name, l)]
  | (k, m) :: rest, name, l => if k = name then (k, l) :: rest else (k, m) :: Overrides.put rest name l

/-- The violation with the severity that its rule is given. -/
def Violation.override (os : Overrides) (v : Violation) : Violation :=
  match os.get? v.rule with
  | some l => { v with severity := l.meaning }
  | none => v

/-- Every violation with the severity that its rule is given. -/
def override (os : Overrides) (vs : List Violation) : List Violation := vs.map (Violation.override os)

/-! ### Verdicts -/

/-- Whether some violation ranks at or above the threshold. -/
def shouldFail (threshold : Severity) (vs : List Violation) : Bool :=
  vs.any fun v => threshold.rank ≤ v.severity.rank

/-- How the violations are shown under a threshold. -/
def statusOf (threshold : Severity) (vs : List Violation) : Status :=
  if vs.isEmpty then .pass
  else if shouldFail threshold vs && vs.any fun v => v.severity = .error then .fail
  else .warn

def verdictOf (threshold : Severity) (vs : List Violation) : Verdict :=
  ⟨statusOf threshold vs, shouldFail threshold vs, threshold⟩

/-- The exit code of a verdict: one if the gate fails, else zero. -/
def Verdict.exitCode (v : Verdict) : Nat := if v.failing then 1 else 0

theorem Violation.override_rule (os : Overrides) (v : Violation) : (v.override os).rule = v.rule := by
  unfold Violation.override
  split <;> rfl

theorem override_nil (vs : List Violation) : override [] vs = vs := by
  have : Violation.override [] = id := by
    funext v
    simp [Violation.override, Overrides.get?]
  simp [override, this]

theorem Status.ofLabel?_label (s : Status) : Status.ofLabel? s.label = some s := by
  cases s <;> decide

end MergeGate
