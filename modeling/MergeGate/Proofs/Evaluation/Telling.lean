import MergeGate.Denylist
import MergeGate.Ruling

/-
  MergeGate/Proofs/Evaluation/Telling.lean
  ========================================
  **What violations tell.**  A violation is read by its rule, its severity and the values concerned.  For
  each rule there is a predicate that says what a violation of it has to tell, in the words of the
  reports and of what was found, and without the function that makes the violation.  A list of things
  found is told whole: every item, in order, as often as it was found.

  `OneIf` is the shape of a rule that speaks at most once.
-/

namespace MergeGate

/-- One violation, which tells something, if a condition holds, and none if it does not. -/
inductive OneIf (condition : Prop) (tells : Violation → Prop) : List Violation → Prop where
  | one {v : Violation} (h : condition) (htells : tells v) : OneIf condition tells [v]
  | none (h : ¬ condition) : OneIf condition tells []

theorem oneIf_ite {condition : Prop} [Decidable condition] {tells : Violation → Prop} {v : Violation}
    (h : condition → tells v) : OneIf condition tells (if condition then [v] else []) := by
  by_cases hc : condition
  · rw [if_pos hc]
    exact .one hc (h hc)
  · rw [if_neg hc]
    exact .none hc

namespace Violation

/-! ### Title and files -/

/-- There is no policy. -/
structure TellsNoPolicy (v : Violation) : Prop where
  rule : v.rule = "config_missing"
  severity : v.severity = .warn
  context : v.context = []

/-- The title pattern is at fault. -/
structure TellsPattern (source : String) (fault : Pattern.Fault) (v : Violation) : Prop where
  rule : v.rule = "title_regex_invalid"
  severity : v.severity = .error
  context : v.context = [("pattern", .text source), ("error", .text (fault.message source.toList))]

/-- The pattern is not found in the title. -/
structure TellsTitle (source title : String) (v : Violation) : Prop where
  rule : v.rule = "pr_title_regex"
  severity : v.severity = .error
  context : v.context = [("pattern", .text source), ("title", .text title)]

/-- Some required files are missing. -/
structure TellsFiles (missing : List String) (v : Violation) : Prop where
  rule : v.rule = "required_files"
  severity : v.severity = .error
  message : v.message = "Required files missing: "
    ++ String.intercalate ", " (missing.map fun path => "`" ++ path ++ "`") ++ "."
  context : v.context = [("missing", .list (missing.map .text))]

theorem tellsNoPolicy_policyMissing : Ruling.policyMissing.TellsNoPolicy := ⟨rfl, rfl, rfl⟩

theorem tellsPattern_patternInvalid (source : String) (fault : Pattern.Fault) :
    (Ruling.patternInvalid source fault).TellsPattern source fault := ⟨rfl, rfl, rfl⟩

theorem tellsTitle_titleMismatch (source title : String) :
    (Ruling.titleMismatch source title).TellsTitle source title := ⟨rfl, rfl, rfl⟩

theorem tellsFiles_filesMissing (missing : List String) : (Ruling.filesMissing missing).TellsFiles missing :=
  ⟨rfl, rfl, rfl, rfl⟩

/-! ### Dependencies -/

/-- The range of a deny rule cannot be read; the rule is told as it is written. -/
structure TellsRefused (raw : String) (v : Violation) : Prop where
  rule : v.rule = "dependency_denylist_invalid"
  severity : v.severity = .error
  told : ∃ range e, (DenyRule.parse raw).range? = some range ∧ Range.parse range = .error e ∧
    v.message = "Invalid denylist rule " ++ ("`" ++ raw ++ "`") ++ ": " ++ e.message ++ "." ∧
    v.context = [("rule", .text raw), ("range", .text range)]

/-- There is no list of records, for a reason and under the name of the manifest. -/
structure TellsAbsent (absence : Severity) (m : Manifest) (v : Violation) : Prop where
  rule : v.rule = "package_lock_missing"
  severity : v.severity = absence
  missing : ∀ source, m = .missing source →
    v.context = [("reason", .text "missing"), ("source", source.elim .null .text)]
  invalid : ∀ e source, m = .invalid e source →
    v.context = [("reason", .text "invalid"), ("source", source.elim .null .text)]

/-- Deny rules ban records: each rule as it is written, beside the record that it bans. -/
structure TellsBanned (ms : List Match) (v : Violation) : Prop where
  rule : v.rule = "dependency_denylist"
  severity : v.severity = .error
  message : v.message = "Denied dependencies found: " ++ String.intercalate ", " (ms.map fun m =>
    "`" ++ (m.record.name ++ "@" ++ m.record.version ++ " (rule: " ++ m.rule.raw ++ ")") ++ "`") ++ "."
  context : v.context = [("matches", .list (ms.map fun m =>
    .object [("dependency", .text (m.record.name ++ "@" ++ m.record.version)), ("rule", .text m.rule.raw)]))]

theorem tellsRefused_invalidViolation {raw range : String} {e : RangeError}
    (hrange : (DenyRule.parse raw).range? = some range) (h : Range.parse range = .error e) :
    ((DenyRule.parse raw).invalidViolation e).TellsRefused raw where
  rule := rfl
  severity := rfl
  told := by
    refine ⟨range, e, hrange, h, ?_, ?_⟩
    · simp [DenyRule.invalidViolation, Text.ticked, DenyRule.parse_raw]
    · simp [DenyRule.invalidViolation, DenyRule.parse_raw, hrange]

theorem tellsAbsent_absentViolation (absence : Severity) (m : Manifest) :
    (m.absentViolation absence).TellsAbsent absence m where
  rule := rfl
  severity := rfl
  missing := by
    rintro source rfl
    cases source <;> rfl
  invalid := by
    rintro e source rfl
    cases source <;> rfl

theorem tellsBanned_foundViolation (ms : List Match) : (Denylist.foundViolation ms).TellsBanned ms :=
  ⟨rfl, rfl, rfl, rfl⟩

end Violation

end MergeGate
