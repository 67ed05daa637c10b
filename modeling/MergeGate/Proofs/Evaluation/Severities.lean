import Mathlib.Data.List.Forall2
import Mathlib.Data.List.Perm.Basic
import MergeGate.Proofs.Evaluation.Blocks

/-
  MergeGate/Proofs/Evaluation/Severities.lean
  ===========================================
  **Overridden severities and the verdict on them.**  An override changes the severity of a
  violation and nothing else (`Overridden`), and only what clearly says that it is a warning makes
  one.  The verdict depends on the final severities and the threshold alone, not on their order
  (`verdictOf_congr`); `Judges` says how.

  Failing and the status are two questions.  Under the threshold of errors they agree, but under
  that of warnings an evaluation may fail and be shown as a warning.  The main statement is
  `evaluate_severities`.
-/

namespace MergeGate

open MergeGate.Text

/-! ### Overrides -/

/-- `w` is `v` with the severity that its rule is given, if it is given one. -/
structure Overridden (os : Overrides) (v w : Violation) : Prop where
  rule : w.rule = v.rule
  message : w.message = v.message
  remediation : w.remediation = v.remediation
  context : w.context = v.context
  given : ∀ l, os.get? v.rule = some l → w.severity = l.meaning
  kept : os.get? v.rule = none → w.severity = v.severity

theorem overridden_override (os : Overrides) (v : Violation) : Overridden os v (v.override os) := by
  unfold Violation.override
  cases h : os.get? v.rule with
  | none => exact ⟨rfl, rfl, rfl, rfl, fun l hl => (nomatch h.symm.trans hl), fun _ => rfl⟩
  | some l =>
    refine ⟨rfl, rfl, rfl, rfl, ?_, fun hnone => (nomatch h.symm.trans hnone)⟩
    intro l' hl'
    cases h.symm.trans hl'
    rfl

theorem forall₂_override (os : Overrides) (vs : List Violation) :
    List.Forall₂ (Overridden os) vs (override os vs) := by
  induction vs with
  | nil => exact .nil
  | cons v vs ih => exact .cons (overridden_override os v) ih

theorem Level.isWarnWord_iff (s : String) :
    isWarnWord s = true ↔ (trim s.toList).map lowerAscii = "warn".toList ∨
      (trim s.toList).map lowerAscii = "warning".toList := by
  simp only [isWarnWord, Bool.or_eq_true, beq_iff_eq]

/-! ### Verdicts -/

/-- `verdict` is the verdict on violations under a threshold. -/
structure Judges (limit : Severity) (vs : List Violation) (verdict : Verdict) : Prop where
  threshold : verdict.threshold = limit
  failing : verdict.failing = true ↔ ∃ v ∈ vs, limit.rank ≤ v.severity.rank
  pass : verdict.status = .pass ↔ vs = []
  fail : verdict.status = .fail ↔ verdict.failing = true ∧ ∃ v ∈ vs, v.severity = .error
  warn : verdict.status = .warn ↔
    vs ≠ [] ∧ ¬ (verdict.failing = true ∧ ∃ v ∈ vs, v.severity = .error)
  exitCode : verdict.exitCode = if verdict.failing then 1 else 0

section Verdicts

variable (limit : Severity) (vs : List Violation)

theorem shouldFail_iff : shouldFail limit vs = true ↔ ∃ v ∈ vs, limit.rank ≤ v.severity.rank := by
  simp only [shouldFail, List.any_eq_true, decide_eq_true_eq]

theorem statusOf_cases :
    (vs = [] ∧ statusOf limit vs = .pass) ∨
    (vs ≠ [] ∧ (shouldFail limit vs = true ∧ ∃ v ∈ vs, v.severity = .error) ∧
      statusOf limit vs = .fail) ∨
    (vs ≠ [] ∧ ¬ (shouldFail limit vs = true ∧ ∃ v ∈ vs, v.severity = .error) ∧
      statusOf limit vs = .warn) := by
  have hgrave : (shouldFail limit vs && vs.any fun v => v.severity = .error) = true ↔
      shouldFail limit vs = true ∧ ∃ v ∈ vs, v.severity = .error := by
    simp only [Bool.and_eq_true, List.any_eq_true, decide_eq_true_eq]
  unfold statusOf
  by_cases hempty : vs = []
  · exact .inl ⟨hempty, if_pos (List.isEmpty_iff.mpr hempty)⟩
  · rw [if_neg (mt List.isEmpty_iff.mp hempty)]
    by_cases h : shouldFail limit vs = true ∧ ∃ v ∈ vs, v.severity = .error
    · exact .inr (.inl ⟨hempty, h, if_pos (hgrave.mpr h)⟩)
    · exact .inr (.inr ⟨hempty, h, if_neg (mt hgrave.mp h)⟩)

theorem statusOf_eq_pass_iff : statusOf limit vs = .pass ↔ vs = [] := by
  rcases statusOf_cases limit vs with ⟨hempty, h⟩ | ⟨hne, -, h⟩ | ⟨hne, -, h⟩
  · exact ⟨fun _ => hempty, fun _ => h⟩
  · exact ⟨fun hpass => (nomatch h.symm.trans hpass), fun hempty => absurd hempty hne⟩
  · exact ⟨fun hpass => (nomatch h.symm.trans hpass), fun hempty => absurd hempty hne⟩

theorem statusOf_eq_fail_iff : statusOf limit vs = .fail ↔
    shouldFail limit vs = true ∧ ∃ v ∈ vs, v.severity = .error := by
  rcases statusOf_cases limit vs with ⟨rfl, h⟩ | ⟨-, hgrave, h⟩ | ⟨-, hmild, h⟩
  · refine ⟨fun hfail => (nomatch h.symm.trans hfail), ?_⟩
    rintro ⟨-, v, hv, -⟩
    cases hv
  · exact ⟨fun _ => hgrave, fun _ => h⟩
  · exact ⟨fun hfail => (nomatch h.symm.trans hfail), fun hgrave => absurd hgrave hmild⟩

theorem statusOf_eq_warn_iff : statusOf limit vs = .warn ↔
    vs ≠ [] ∧ ¬ (shouldFail limit vs = true ∧ ∃ v ∈ vs, v.severity = .error) := by
  rcases statusOf_cases limit vs with ⟨hempty, h⟩ | ⟨-, hgrave, h⟩ | ⟨hne, hmild, h⟩
  · exact ⟨fun hwarn => (nomatch h.symm.trans hwarn), fun hne => absurd hempty hne.1⟩
  · exact ⟨fun hwarn => (nomatch h.symm.trans hwarn), fun hmild => absurd hgrave hmild.2⟩
  · exact ⟨fun _ => ⟨hne, hmild⟩, fun _ => h⟩

theorem judges_verdictOf : Judges limit vs (verdictOf limit vs) :=
  ⟨rfl, shouldFail_iff limit vs, statusOf_eq_pass_iff limit vs, statusOf_eq_fail_iff limit vs,
    statusOf_eq_warn_iff limit vs, rfl⟩

end Verdicts

namespace Judges

variable {limit : Severity} {vs : List Violation} {verdict : Verdict}

/-- Under the threshold of errors the status fails exactly when the gate does. -/
theorem fail_iff_failing (h : Judges .error vs verdict) :
    verdict.status = .fail ↔ verdict.failing = true := by
  rw [h.fail, and_iff_left_iff_imp]
  intro hfailing
  obtain ⟨v, hv, hrank⟩ := h.failing.mp hfailing
  refine ⟨v, hv, ?_⟩
  cases hseverity : v.severity with
  | error => rfl
  | warn =>
    rw [hseverity] at hrank
    exact absurd hrank (by decide)

theorem not_pass_of_failing (h : Judges limit vs verdict) (hfailing : verdict.failing = true) :
    verdict.status ≠ .pass := by
  intro hpass
  obtain ⟨v, hv, -⟩ := h.failing.mp hfailing
  rw [h.pass.mp hpass] at hv
  cases hv

end Judges

/-- A verdict depends on severities alone, and not on their order. -/
theorem verdictOf_congr (limit : Severity) {vs ws : List Violation}
    (h : (ws.map (·.severity)).Perm (vs.map (·.severity))) :
    verdictOf limit ws = verdictOf limit vs := by
  have hany : ∀ p : Severity → Bool,
      (ws.any fun v => p v.severity) = vs.any fun v => p v.severity := by
    intro p
    have hsame : (ws.map (·.severity)).any p = (vs.map (·.severity)).any p := h.any_eq
    rwa [List.any_map, List.any_map] at hsame
  have hfail : shouldFail limit ws = shouldFail limit vs := hany fun s => limit.rank ≤ s.rank
  have hgrave := hany fun s => s = .error
  have hlength : ws.length = vs.length := by
    have hsame := h.length_eq
    rwa [List.length_map, List.length_map] at hsame
  have hempty : ws.isEmpty = vs.isEmpty := by
    rw [Bool.eq_iff_iff, List.isEmpty_iff_length_eq_zero, List.isEmpty_iff_length_eq_zero, hlength]
  rw [verdictOf, verdictOf, statusOf, statusOf, hfail, hgrave, hempty]

/-! ### The severities of an evaluation -/

/-- A policy without its overrides. -/
def Policy.unoverridden (p : Policy) : Policy := { p with severities := [] }

namespace Evaluation

theorem found_unoverridden (absence : Severity) (policy : Option Policy) (facts : Facts) :
    found absence (policy.map Policy.unoverridden) facts = found absence policy facts := by
  cases policy with
  | none => rfl
  | some p => rfl

theorem overridesOf_unoverridden (policy : Option Policy) :
    overridesOf (policy.map Policy.unoverridden) = [] := by
  cases policy with
  | none => rfl
  | some p => rfl

/-- The evaluation without overrides ends too, in the violations before they are overridden. -/
theorem evaluate_unoverridden {absence : Severity} {policy : Option Policy} {facts : Facts}
    {e : Evaluation} (h : evaluate absence policy facts = .ok e) :
    ∃ e₀, evaluate absence (policy.map Policy.unoverridden) facts = .ok e₀ ∧
      e.violations = override (overridesOf policy) e₀.violations := by
  obtain ⟨findings, hfound, rfl⟩ := evaluate_eq_ok_iff.mp h
  refine ⟨concluded (policy.map Policy.unoverridden) facts findings, ?_, ?_⟩
  · exact evaluate_eq_ok_iff.mpr ⟨findings, found_unoverridden absence policy facts ▸ hfound, rfl⟩
  · have hkept : (concluded (policy.map Policy.unoverridden) facts findings).violations =
        findings.violations := by
      rw [concluded, overridesOf_unoverridden, override_nil]
    rw [hkept]
    rfl

theorem verdict_evaluate {absence : Severity} {policy : Option Policy} {facts : Facts}
    {e : Evaluation} (h : evaluate absence policy facts = .ok e) :
    e.verdict = verdictOf (thresholdOf policy facts.failOn) e.violations := by
  obtain ⟨findings, -, rfl⟩ := evaluate_eq_ok_iff.mp h
  rfl

theorem thresholdOf_eq (policy : Option Policy) (failOn : Option String) :
    thresholdOf policy failOn =
      Level.ofOption ((failOn.or (policy.bind Policy.failOn)).map Level.text) := by
  cases failOn with
  | none => rfl
  | some s => rfl

/-- **Overrides change severities only, and the verdict follows from the final ones.**  Whenever an
    evaluation comes to its end:

    1. so does the one without overrides, and place by place their violations agree but for the
       severity, which is the one that the rule is given, if it is given one;
    2. only a severity of warnings, or one of two words in any case between blanks, means a warning;
    3. the threshold is what the run says, or else what the policy says, or else that of errors;
    4. the verdict follows from the final severities and this threshold, whatever their order. -/
theorem evaluate_severities {absence : Severity} {policy : Option Policy} {facts : Facts}
    {e : Evaluation} (h : evaluate absence policy facts = .ok e) :
    (∃ e₀, evaluate absence (policy.map Policy.unoverridden) facts = .ok e₀ ∧
      List.Forall₂ (Overridden (overridesOf policy)) e₀.violations e.violations) ∧
    (∀ l : Level, l.meaning = .warn ↔ l = .severity .warn ∨ ∃ s, l = .text s ∧
      ((trim s.toList).map lowerAscii = "warn".toList ∨
        (trim s.toList).map lowerAscii = "warning".toList)) ∧
    ∃ limit, limit = Level.ofOption ((facts.failOn.or (policy.bind Policy.failOn)).map .text) ∧
      (∀ s, facts.failOn.or (policy.bind Policy.failOn) = some s → limit = (Level.text s).meaning) ∧
      (facts.failOn.or (policy.bind Policy.failOn) = none → limit = .error) ∧
      Judges limit e.violations e.verdict ∧
      (limit = .error → (e.verdict.status = .fail ↔ e.verdict.failing = true)) ∧
      (e.verdict.failing = true → e.verdict.status ≠ .pass) ∧
      ∀ vs : List Violation, (vs.map (·.severity)).Perm (e.violations.map (·.severity)) →
        verdictOf limit vs = e.verdict := by
  have hverdict := verdict_evaluate h
  have hjudges : Judges (thresholdOf policy facts.failOn) e.violations e.verdict :=
    hverdict ▸ judges_verdictOf _ _
  have hlimit := thresholdOf_eq policy facts.failOn
  refine ⟨?_, ?_, _, hlimit, fun s hs => by rw [hlimit, hs]; rfl, fun hnone => by rw [hlimit, hnone]; rfl,
    hjudges, ?_, hjudges.not_pass_of_failing, ?_⟩
  · obtain ⟨e₀, h₀, hvs⟩ := evaluate_unoverridden h
    exact ⟨e₀, h₀, hvs ▸ forall₂_override _ _⟩
  · intro l
    simp only [Level.meaning_eq_warn_iff, Level.isWarnWord_iff]
  · intro hlimit
    rw [hlimit] at hjudges
    exact hjudges.fail_iff_failing
  -- the verdict asks only which severities occur
  · intro vs hperm
    rw [hverdict]
    exact verdictOf_congr _ hperm

/-- A policy that makes a missing file a warning, and fails on warnings. -/
def mildPolicy : Policy where
  requiredFiles := ["NOTICE"]
  severities := [("required_files", .text " Warning")]
  failOn := some "warn"

/-- An evaluation may fail and be shown as a warning. -/
theorem evaluate_severities_mildPolicy :
    ∃ e, evaluate .warn (some mildPolicy) {} = .ok e ∧
      (∃ e₀, evaluate .warn (some mildPolicy.unoverridden) {} = .ok e₀ ∧
        List.Forall₂ (Overridden mildPolicy.severities) e₀.violations e.violations) ∧
      Judges .warn e.violations e.verdict ∧
      e.verdict.failing = true ∧ e.verdict.status = .warn := by
  have hends : evaluate .warn (some mildPolicy) {} =
      .ok (concluded (some mildPolicy) {} ⟨[Ruling.filesMissing ["NOTICE"]], []⟩) := rfl
  obtain ⟨hsame, -, limit, hlimit, -, -, hjudges, -⟩ := evaluate_severities hends
  have hwarn : limit = .warn := hlimit.trans (by decide)
  exact ⟨_, hends, hsame, hwarn ▸ hjudges, by decide, by decide⟩

end Evaluation

end MergeGate
