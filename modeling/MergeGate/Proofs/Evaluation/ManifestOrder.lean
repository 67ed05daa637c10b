import MergeGate.Proofs.Evaluation.Contexts
import MergeGate.Proofs.Evaluation.Severities
import MergeGate.Proofs.Manifest.Reordering

/-
  MergeGate/Proofs/Evaluation/ManifestOrder.lean
  ==============================================
  **The order of a manifest does not matter.**  Two evaluations that differ in nothing but the order in
  which the members of objects of the lock manifest stand come to the same decision
  (`evaluate_reordered`): the same verdict, for the same rules at the same severities, and the same
  banned pairs of a record and a rule, maybe in another order.

  Both runs read manifests that list the same records of the same table
  (`Manifest.alike_of_reordered`).  Permuted records give permuted matches, and there are any on
  both sides or on none.  All other violations do not depend on the records.
-/

namespace MergeGate

/-- Two violations of one rule at one severity; if it is the rule on denied dependencies, of the
    same matches in some order. -/
structure SameFinding (v v' : Violation) : Prop where
  rule : v'.rule = v.rule
  severity : v'.severity = v.severity
  banned : v.rule = Rule.denylist.id → ∃ ms ms' : List Match,
    v.context = [("matches", .list (ms.map Match.toJson))] ∧
    v'.context = [("matches", .list (ms'.map Match.toJson))] ∧ ms.Perm ms'

namespace SameFinding

theorem override {v v' : Violation} (h : SameFinding v v') (os : Overrides) :
    SameFinding (v.override os) (v'.override os) := by
  refine ⟨?_, ?_, ?_⟩
  · rw [Violation.override_rule, Violation.override_rule, h.rule]
  · unfold Violation.override
    rw [h.rule]
    cases os.get? v.rule with
    | none => exact h.severity
    | some l => rfl
  · rw [Violation.override_rule, Evaluation.context_override, Evaluation.context_override]
    exact h.banned

theorem forall₂_override {vs vs' : List Violation} (h : List.Forall₂ SameFinding vs vs')
    (os : Overrides) :
    List.Forall₂ SameFinding (MergeGate.override os vs) (MergeGate.override os vs') := by
  rw [MergeGate.override, MergeGate.override, List.forall₂_map_left_iff, List.forall₂_map_right_iff]
  exact h.imp fun v v' hv => hv.override os

/-- What is not about denied dependencies is the same as itself. -/
theorem forall₂_refl {vs : List Violation} (h : ∀ v ∈ vs, v.rule ≠ Rule.denylist.id) :
    List.Forall₂ SameFinding vs vs :=
  List.forall₂_same.mpr fun v hv => ⟨rfl, rfl, fun hrule => absurd hrule (h v hv)⟩

end SameFinding

/-! ### Deny rules -/

namespace Denylist

theorem found_perm (cs : List CompiledRule) {rs rs' : List Record} (h : rs.Perm rs') :
    (found cs rs).Perm (found cs rs') := by
  apply List.Perm.flatMap_left
  intro c _
  exact (h.filter c.bans).map _

theorem rule_ne_of_rejection {raws : List String} {v : Violation}
    (hv : v ∈ raws.filterMap rejection?) : v.rule ≠ Rule.denylist.id := by
  obtain ⟨raw, -, hraw⟩ := List.mem_filterMap.mp hv
  rw [(rejection?_eq_some hraw).2.1]
  decide

/-- What is reported on refused rules, absent records and banned pairs, if the records are listed
    alike and the banned pairs are permuted. -/
theorem sameFinding_reported (absence : Severity) {raws : List String} {m m' : Manifest}
    (h : m.Alike m') {ms ms' : List Match}
    (hms : (∀ raw ∈ raws, ¬ isRefused raw) → m.isAvailable → ms.Perm ms') :
    List.Forall₂ SameFinding (reported absence raws m ms) (reported absence raws m' ms') := by
  unfold reported
  by_cases hempty : raws = []
  · rw [if_pos hempty, if_pos hempty]
    exact .nil
  rw [if_neg hempty, if_neg hempty]
  have hfaulty : List.Forall₂ SameFinding (raws.filterMap rejection?) (raws.filterMap rejection?) :=
    SameFinding.forall₂_refl fun v => rule_ne_of_rejection
  cases h with
  | absent hm hm' =>
    have habsent : SameFinding (m.absentViolation absence) (m'.absentViolation absence) :=
      ⟨rfl, rfl, fun hrule => absurd hrule (show Rule.manifestMissing.id ≠ Rule.denylist.id by decide)⟩
    simp only [hm, hm', Bool.false_eq_true, false_and, and_false, if_false, List.append_nil]
    exact List.rel_append hfaulty (.cons habsent .nil)
  | @listed schema rs rs' source =>
    simp only [Manifest.isAvailable, true_and, if_true, List.append_nil]
    refine List.rel_append hfaulty ?_
    by_cases hsound : ∀ raw ∈ raws, ¬ isRefused raw
    -- the matches of one listing are those of the other in some order, so both are told or neither
    · have hperm := hms hsound rfl
      have hempty' : ms = [] ↔ ms' = [] := by
        rw [← List.length_eq_zero_iff, hperm.length_eq, List.length_eq_zero_iff]
      by_cases hnone : ms = []
      · rw [if_neg fun hsome => hsome.2 hnone, if_neg fun hsome => hsome.2 (hempty'.mp hnone)]
        exact .nil
      · rw [if_pos ⟨hsound, hnone⟩, if_pos ⟨hsound, mt hempty'.mpr hnone⟩]
        exact .cons ⟨rfl, rfl, fun _ => ⟨ms, ms', rfl, rfl, hperm⟩⟩ .nil
    · rw [if_neg fun hsome => hsound hsome.1, if_neg fun hsome => hsound hsome.1]
      exact .nil

theorem sameFinding_evaluate (absence : Severity) (raws : List String) {m m' : Manifest}
    (h : m.Alike m') :
    List.Forall₂ SameFinding (evaluate absence raws m).violations
      (evaluate absence raws m').violations := by
  rw [violations_evaluate, violations_evaluate]
  apply sameFinding_reported absence h
  intro hsound havailable
  have hnone := List.filterMap_eq_nil_iff.mp ((filterMap_rejection?_eq_nil_iff raws).mpr hsound)
  rw [← found_compiled m.records hnone, ← found_compiled m'.records hnone]
  cases h with
  | absent hm _ => cases hm.symm.trans havailable
  | listed hrs => exact found_perm _ hrs

end Denylist

namespace Evaluation

/-! ### Manifests that are supplied -/

/-- The manifests that two evaluations are given differ in the order of members only: they hold, or
    are read from what holds, a root object and a reordered one; or they hold no object at all. -/
inductive ReorderedSupply : ManifestSupply → ManifestSupply → Prop where
  | contents {c c' : Content} {root root' : Json.Members} (hc : c.Holds root) (hc' : c'.Holds root')
      (h : Json.Reordered (.object root) (.object root')) :
      ReorderedSupply (.content (some c)) (.content (some c'))
  | unheld {c c' : Content} (hc : ∀ root, ¬ c.Holds root) (hc' : ∀ root, ¬ c'.Holds root) :
      ReorderedSupply (.content (some c)) (.content (some c'))
  | read {c c' : Content} {root root' : Json.Members} {source : Option String} (hc : c.Holds root)
      (hc' : c'.Holds root') (h : Json.Reordered (.object root) (.object root')) :
      ReorderedSupply (.read (Manifest.read (some c) source)) (.read (Manifest.read (some c') source))

theorem not_isAvailable_read {c : Content} (h : ∀ root, ¬ c.Holds root) (source : Option String) :
    (Manifest.read (some c) source).isAvailable = false := by
  rw [← Bool.not_eq_true, Manifest.isAvailable_read_iff]
  rintro ⟨c', root, ⟨rfl⟩, hroot⟩
  exact h root hroot

theorem ReorderedSupply.alike {supply supply' : ManifestSupply} (h : ReorderedSupply supply supply')
    (source : Option String) (lockfile : String) :
    (supplied supply source lockfile).Alike (supplied supply' source lockfile) := by
  cases h with
  | contents hc hc' h =>
    rw [supplied, supplied, hc.read, hc'.read]
    exact Manifest.alike_of_reordered h _
  | unheld hc hc' => exact .absent (not_isAvailable_read hc _) (not_isAvailable_read hc' _)
  | read hc hc' h =>
    rw [supplied, supplied, hc.read, hc'.read]
    exact Manifest.alike_of_reordered h _

/-! ### Whole evaluations -/

/-- Two evaluations come to the same decision: one verdict, on the same findings one by one. -/
structure SameDecision (e e' : Evaluation) : Prop where
  verdict : e'.verdict = e.verdict
  findings : List.Forall₂ SameFinding e.violations e'.violations

theorem sameFinding_blocks (absence : Severity) (p : Policy) (facts : Facts)
    {supply supply' : ManifestSupply} (h : ReorderedSupply supply supply') :
    List.Forall₂ SameFinding (blocks absence p { facts with manifest := supply })
      (blocks absence p { facts with manifest := supply' }) := by
  have htitle : ∀ v ∈ titleBlock p.titlePattern (facts.title.getD ""), v.rule ≠ Rule.denylist.id := by
    intro v hv
    obtain ⟨source, -, -, rfl⟩ := mem_titleBlock_iff.mp hv
    exact show Rule.titleMismatch.id ≠ Rule.denylist.id by decide
  have hfiles : ∀ v ∈ fileBlock p.requiredFiles facts.fileExists, v.rule ≠ Rule.denylist.id := by
    intro v hv
    obtain ⟨-, rfl⟩ := mem_fileBlock_iff.mp hv
    exact show Rule.requiredFiles.id ≠ Rule.denylist.id by decide
  unfold blocks
  rw [denyBlock_eq, denyBlock_eq]
  exact List.rel_append (List.rel_append (SameFinding.forall₂_refl htitle) (SameFinding.forall₂_refl hfiles))
    (Denylist.sameFinding_evaluate absence p.denylist (h.alike facts.manifestSource p.lockfile))

theorem sameFinding_evaluate {absence : Severity} {policy : Option Policy} {facts : Facts}
    {supply supply' : ManifestSupply} (h : ReorderedSupply supply supply') {e e' : Evaluation}
    (he : evaluate absence policy { facts with manifest := supply } = .ok e)
    (he' : evaluate absence policy { facts with manifest := supply' } = .ok e') :
    List.Forall₂ SameFinding e.violations e'.violations := by
  cases policy with
  | none =>
    cases he
    cases he'
    apply SameFinding.forall₂_override
    refine SameFinding.forall₂_refl ?_
    rw [List.forall_mem_singleton]
    exact show Rule.configMissing.id ≠ Rule.denylist.id by decide
  | some p =>
    rcases violations_evaluate he with ⟨source, fault, hsource, hfault, hvs⟩ | ⟨hcompiles, hvs⟩
    · rw [hvs, violations_evaluate_of_error he' hsource hfault]
      apply SameFinding.forall₂_override
      refine SameFinding.forall₂_refl ?_
      rw [List.forall_mem_singleton]
      exact show Rule.titlePatternInvalid.id ≠ Rule.denylist.id by decide
    · rw [hvs, violations_evaluate_of_compiles he' hcompiles]
      exact SameFinding.forall₂_override (sameFinding_blocks absence p facts h) p.severities

/-- The same findings have the same severities, so the verdict on them is the same. -/
theorem sameDecision_evaluate {absence : Severity} {policy : Option Policy} {facts : Facts}
    {supply supply' : ManifestSupply} (h : ReorderedSupply supply supply') {e e' : Evaluation}
    (he : evaluate absence policy { facts with manifest := supply } = .ok e)
    (he' : evaluate absence policy { facts with manifest := supply' } = .ok e') :
    SameDecision e e' := by
  have hfindings := sameFinding_evaluate h he he'
  have hseverities : e.violations.map (·.severity) = e'.violations.map (·.severity) := by
    rw [← List.forall₂_eq_eq_eq, List.forall₂_map_left_iff, List.forall₂_map_right_iff]
    exact hfindings.imp fun v v' hv => hv.severity.symm
  refine ⟨?_, hfindings⟩
  rw [verdict_evaluate he, verdict_evaluate he']
  exact verdictOf_congr _ (.of_eq hseverities.symm)

/-- **The order of a manifest does not matter.**  With manifests that differ in the order of members
    only, and the same policy and facts otherwise, either both evaluations stop, by the same cause,
    or both come to an end with the same decision. -/
theorem evaluate_reordered (absence : Severity) (policy : Option Policy) (facts : Facts)
    {supply supply' : ManifestSupply} (h : ReorderedSupply supply supply') :
    (∃ cause, evaluate absence policy { facts with manifest := supply } = .error cause ∧
      evaluate absence policy { facts with manifest := supply' } = .error cause) ∨
    ∃ e e', evaluate absence policy { facts with manifest := supply } = .ok e ∧
      evaluate absence policy { facts with manifest := supply' } = .ok e' ∧ SameDecision e e' := by
  -- whether an evaluation stops is decided by its policy alone
  rcases evaluate_cases absence policy { facts with manifest := supply } with
    ⟨cause, herror, hstops⟩ | ⟨e, he, -⟩
  · exact .inl ⟨cause, herror, (evaluate_eq_error_iff absence policy _ cause).mpr hstops⟩
  · rcases evaluate_cases absence policy { facts with manifest := supply' } with
      ⟨cause, -, hstops⟩ | ⟨e', he', -⟩
    · have herror := (evaluate_eq_error_iff absence policy { facts with manifest := supply } cause).mpr hstops
      cases he.symm.trans herror
    · exact .inr ⟨e, e', he, he', sameDecision_evaluate h he he'⟩

/-- A package at a version. -/
def packageAt (version : String) : Json := .object [("version", .text version)]

/-- A package with another one below it, which is there once more beside it at a lower version. -/
def sortedRoot : Json.Members :=
  [("dependencies", .object
    [("a", .object [("version", .text "1.0.0"), ("dependencies", .object [("c", packageAt "2.0.0")])]),
      ("c", packageAt "1.0.0")])]

/-- The same with the packages the other way round, and the members of the first one too. -/
def shuffledRoot : Json.Members :=
  [("dependencies", .object
    [("c", packageAt "1.0.0"),
      ("a", .object [("dependencies", .object [("c", packageAt "2.0.0")]), ("version", .text "1.0.0")])])]

theorem reordered_shuffledRoot : Json.Reordered (.object sortedRoot) (.object shuffledRoot) := by
  have hentry : Json.Reorders
      (.object [("version", .text "1.0.0"), ("dependencies", .object [("c", packageAt "2.0.0")])])
      (.object [("dependencies", .object [("c", packageAt "2.0.0")]), ("version", .text "1.0.0")]) :=
    .members (by decide) (.swap _ _ _)
  have htable := @Json.Reorders.member [] [("c", packageAt "1.0.0")] "a" _ _ hentry
  refine .tail (.single (@Json.Reorders.member [] [] "dependencies" _ _ htable)) ?_
  exact @Json.Reorders.member [] [] "dependencies" _ _ (.members (by decide) (.swap _ _ _))

/-- A policy that bans a package at every version. -/
def banningPolicy : Policy where
  denylist := ["c"]

theorem evaluate_reordered_shuffledRoot :
    ∃ e e',
      evaluate .warn (some banningPolicy)
        { manifest := .content (some (.text (Json.writeCompact (.object sortedRoot)))) } = .ok e ∧
      evaluate .warn (some banningPolicy)
        { manifest := .content (some (.text (Json.writeCompact (.object shuffledRoot)))) } = .ok e' ∧
      SameDecision e e' ∧
      (Manifest.ofRoot sortedRoot none).records = [⟨"a", "1.0.0"⟩, ⟨"c", "2.0.0"⟩, ⟨"c", "1.0.0"⟩] ∧
      (Manifest.ofRoot shuffledRoot none).records =
        [⟨"c", "1.0.0"⟩, ⟨"a", "1.0.0"⟩, ⟨"c", "2.0.0"⟩] := by
  have hsorted : Content.Holds sortedRoot (.text (Json.writeCompact (.object sortedRoot))) := by
    rw [Content.Holds, Json.writeCompact, String.toList_ofList]
    cbv
  have hshuffled : Content.Holds shuffledRoot (.text (Json.writeCompact (.object shuffledRoot))) := by
    rw [Content.Holds, Json.writeCompact, String.toList_ofList]
    cbv
  rcases evaluate_reordered .warn (some banningPolicy) {}
    (.contents hsorted hshuffled reordered_shuffledRoot) with ⟨cause, herror, -⟩ | ⟨e, e', he, he', hsame⟩
  · obtain ⟨p, source, position, hp, hsource, -⟩ := (evaluate_eq_error_iff _ _ _ _).mp herror
    cases hp
    cases hsource
  · exact ⟨e, e', he, he', hsame, by decide, by decide⟩

end Evaluation

end MergeGate
