import MergeGate.Violation

/-
  MergeGate/Policy/Basic.lean
  ===========================
  **Policies.**  A policy says what the gate asks of a pull request: a pattern for its title, files
  that have to exist, packages that may not be resolved, how grave each breach is, from which
  severity on the gate fails, and where the lock manifest lies.  Every part may be left out; the
  empty policy asks for nothing.
-/

namespace MergeGate

/-- The lock manifest that is read when a policy names none. -/
def defaultLockfile : String := "package-lock.json"

/-- The policy file that is read when none is named. -/
def defaultPolicyFile : String := ".repo-policy.yml"

/-- What the gate asks of a pull request. -/
structure Policy where
  titlePattern : Option String := none
  requiredFiles : List String := []
  denylist : List String := []
  severities : Overrides := []
  failOn : Option String := none
  lockfile : String := defaultLockfile
  deriving Inhabited

/-- A level that may be absent, read from text. -/
def Policy.threshold (failOn : Option String) : Severity := Level.ofOption (failOn.map Level.text)

end MergeGate
