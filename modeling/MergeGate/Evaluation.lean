import MergeGate.Denylist
import MergeGate.Ruling

/-
  MergeGate/Evaluation.lean
  =========================
  **Evaluating a policy.**  The rules on title and files come first, then the deny rules, if there are
  any and the ruling is not final; then the severities are overridden, and the verdict follows
  from them and the threshold.  The threshold of the run goes before that of the policy.

  An evaluation looks at nothing but the policy and the facts it is given.
-/

namespace MergeGate

open MergeGate.Text

/-- The lock manifest as an evaluation gets it: what a file holds, or already read. -/
inductive ManifestSupply where
  | content (c : Option Content)
  | read (m : Manifest)

/-- What an evaluation is told about the pull request and the checkout. -/
structure Facts where
  title : Option String := none
  fileExists : String → Bool := fun _ => false
  manifest : ManifestSupply := .content none
  manifestSource : Option String := none
  failOn : Option String := none

structure Evaluation where
  violations : List Violation
  verdict : Verdict
  notes : List Note := []

namespace Evaluation

/-- The manifest, and what is noted if it is read now. -/
def manifestOf (supply : ManifestSupply) (source : String) : Manifest × List Note :=
  match supply with
  | .read m => (m, [])
  | .content c => let m := Manifest.read c (some source); (m, m.notes)

/-- What the deny rules of a policy find. -/
def denied (absence : Severity) (policy : Policy) (facts : Facts) : Findings :=
  if policy.denylist.isEmpty then {}
  else
    let (manifest, notes) := manifestOf facts.manifest (filledOr facts.manifestSource policy.lockfile)
    let found := Denylist.evaluate absence policy.denylist manifest
    { found with notes := notes ++ found.notes }

/-- The findings before severities are overridden. -/
def found (absence : Severity) (policy : Option Policy) (facts : Facts) : Except Pattern.Cause Findings := do
  let ruling ← Ruling.ofPolicy policy (facts.title.getD "") facts.fileExists
  match policy with
  | none => return { violations := ruling.violations }
  | some policy =>
    if ruling.isFinal then return { violations := ruling.violations }
    else
      let denied := denied absence policy facts
      return { denied with violations := ruling.violations ++ denied.violations }

/-- The severity from which on the gate fails. -/
def thresholdOf (policy : Option Policy) (failOn : Option String) : Severity :=
  match failOn with
  | some level => Policy.threshold (some level)
  | none => Policy.threshold (policy.bind Policy.failOn)

/-- The overrides of a policy, none without one. -/
def overridesOf (policy : Option Policy) : Overrides := (policy.map Policy.severities).getD []

/-- Evaluates a policy; `absence` is the severity of an absent manifest. -/
def evaluate (absence : Severity) (policy : Option Policy) (facts : Facts) : Except Pattern.Cause Evaluation := do
  let findings ← found absence policy facts
  let violations := override (overridesOf policy) findings.violations
  let verdict := verdictOf (thresholdOf policy facts.failOn) violations
  return ⟨violations, verdict, findings.notes ++ [.evaluated violations.length verdict]⟩

/-- The severity of an absent manifest when nothing else is asked for. -/
def defaultAbsence : Severity := .warn

end Evaluation

end MergeGate
