/-
  MergeGate/Rule.lean
  ===================
  **The rules of the gate and their names.**  A rule's name is the same in every run; policies use
  it as a key when they override a severity, and reports show it.
-/

namespace MergeGate

/-- The rules that a violation can come from. -/
inductive Rule where
  | configMissing
  | titlePatternInvalid
  | titleMismatch
  | requiredFiles
  | denylist
  | denylistInvalid
  | manifestMissing
  deriving DecidableEq, Repr

namespace Rule

def id : Rule → String
  | .configMissing => "config_missing"
  | .titlePatternInvalid => "title_regex_invalid"
  | .titleMismatch => "pr_title_regex"
  | .requiredFiles => "required_files"
  | .denylist => "dependency_denylist"
  | .denylistInvalid => "dependency_denylist_invalid"
  | .manifestMissing => "package_lock_missing"

def all : List Rule :=
  [.configMissing, .titlePatternInvalid, .titleMismatch, .requiredFiles, .denylist, .denylistInvalid,
    .manifestMissing]

/-- Whether a name is that of a rule. -/
def isKnownId (s : String) : Bool := all.any fun r => r.id == s

theorem mem_all (r : Rule) : r ∈ all := by
  cases r <;> simp [all]

theorem isKnownId_iff (s : String) : isKnownId s = true ↔ ∃ r : Rule, r.id = s := by
  constructor
  · intro h
    obtain ⟨r, _, hr⟩ := List.any_eq_true.1 h
    exact ⟨r, by simpa using hr⟩
  · rintro ⟨r, rfl⟩
    exact List.any_eq_true.2 ⟨r, mem_all r, by simp⟩

end Rule

end MergeGate
