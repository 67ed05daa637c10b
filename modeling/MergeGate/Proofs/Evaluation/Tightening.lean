import MergeGate.Proofs.Evaluation.Severities

/-
  MergeGate/Proofs/Evaluation/Tightening.lean
  ===========================================
  **A tighter policy fails at least as often.**  A policy is tightened by further deny rules, also
  malformed ones, and by further required files; an evaluation is tightened besides by a lower
  threshold and by further records of a manifest that has been read (`Tightens`).  What fails then
  keeps failing (`failing_of_tightens`).

  This does not hold violation by violation.  One malformed rule takes back what all sound rules
  have found, since nothing is compared any more; but then there is its own violation, which is an
  error as long as no override makes it a warning.  So the invariant is that each violation is
  covered by one of at least its final severity, perhaps of another rule (`Covers`).
-/

namespace MergeGate

open MergeGate.Text

/-! ### Covered violations -/

/-- Each violation has one among the others whose final severity is at least as high. -/
def Covers (os : Overrides) (vs vs' : List Violation) : Prop :=
  ∀ v ∈ vs, ∃ v' ∈ vs', (v.override os).severity.rank ≤ (v'.override os).severity.rank

namespace Covers

variable {os : Overrides} {vs vs' ws ws' : List Violation}

theorem of_subset (h : vs ⊆ vs') : Covers os vs vs' :=
  fun v hv => ⟨v, h hv, Nat.le_refl _⟩

theorem append (hv : Covers os vs vs') (hw : Covers os ws ws') :
    Covers os (vs ++ ws) (vs' ++ ws') := by
  intro v hmem
  rcases List.mem_append.mp hmem with hmem | hmem
  · obtain ⟨v', hv', hrank⟩ := hv v hmem
    exact ⟨v', List.mem_append_left _ hv', hrank⟩
  · obtain ⟨v', hv', hrank⟩ := hw v hmem
    exact ⟨v', List.mem_append_right _ hv', hrank⟩

/-- Under a threshold that is not higher, what covers a failing list fails. -/
theorem shouldFail (h : Covers os vs vs') {limit limit' : Severity}
    (hlimit : limit'.rank ≤ limit.rank)
    (hfail : MergeGate.shouldFail limit (override os vs) = true) :
    MergeGate.shouldFail limit' (override os vs') = true := by
  obtain ⟨w, hw, hrank⟩ := (shouldFail_iff limit _).mp hfail
  obtain ⟨v, hv, rfl⟩ := List.mem_map.mp hw
  obtain ⟨v', hv', hover⟩ := h v hv
  refine (shouldFail_iff limit' _).mpr ⟨v'.override os, List.mem_map_of_mem hv', ?_⟩
  exact hlimit.trans (hrank.trans hover)

end Covers

theorem Severity.rank_le_error (s : Severity) : s.rank ≤ Severity.error.rank := by
  cases s <;> decide

/-- The final severity of a violation is told by its rule and by the severity it came with. -/
theorem Violation.rank_override_le (os : Overrides) {v v' : Violation}
    (hrule : v.rule = v'.rule) (hseverity : v.severity = v'.severity) :
    (v.override os).severity.rank ≤ (v'.override os).severity.rank := by
  apply Nat.le_of_eq
  unfold Violation.override
  rw [hrule]
  cases os.get? v'.rule with
  | none => exact congrArg Severity.rank hseverity
  | some l => rfl

/-- Overrides do not make a warning of what malformed deny rules give. -/
def KeepsInvalid (os : Overrides) : Prop :=
  ∀ l, os.get? Rule.denylistInvalid.id = some l → l.meaning ≠ .warn

theorem KeepsInvalid.severity_override {os : Overrides} (h : KeepsInvalid os) {v : Violation}
    (hrule : v.rule = Rule.denylistInvalid.id) (hseverity : v.severity = .error) :
    (v.override os).severity = .error := by
  unfold Violation.override
  rw [hrule]
  cases hget : os.get? Rule.denylistInvalid.id with
  | none => exact hseverity
  | some l =>
    show l.meaning = .error
    cases hmeaning : l.meaning with
    | error => rfl
    | warn => exact absurd hmeaning (h l hget)

/-! ### Deny rules -/

/-- A manifest that has been read, or the same with further records. -/
inductive Manifest.Extends : Manifest → Manifest → Prop where
  | same (m : Manifest) : Extends m m
  | records {schema : Option Schema} {rs rs' : List Record} {source : Option String}
      (h : rs.Sublist rs') : Extends (.available schema rs source) (.available schema rs' source)

theorem Manifest.Extends.isAvailable {m m' : Manifest} (h : m.Extends m') :
    m'.isAvailable = m.isAvailable := by
  cases h with
  | same => rfl
  | records _ => rfl

theorem Manifest.Extends.eq_of_not_isAvailable {m m' : Manifest} (h : m.Extends m')
    (hm : m.isAvailable = false) : m' = m := by
  cases h with
  | same => rfl
  | records _ => cases hm

theorem Manifest.Extends.subset {m m' : Manifest} (h : m.Extends m') :
    m.records ⊆ m'.records := by
  cases h with
  | same => exact List.Subset.refl _
  | records hrs => exact hrs.subset

namespace Denylist

theorem covers_evaluate {os : Overrides} (hos : KeepsInvalid os) (absence : Severity)
    {raws raws' : List String} (hraws : raws ⊆ raws') {m m' : Manifest} (hm : m.Extends m') :
    Covers os (evaluate absence raws m).violations (evaluate absence raws' m').violations := by
  intro v hv
  rcases mem_violations_evaluate_iff.mp hv with
    ⟨raw, hraw, hrejection⟩ | ⟨hne, habsent, rfl⟩ | ⟨-, havailable, ⟨raw, hraw, r, hr, hbans⟩, rfl⟩
  · refine ⟨v, ?_, Nat.le_refl _⟩
    exact mem_violations_evaluate_iff.mpr (.inl ⟨raw, hraws hraw, hrejection⟩)
  · refine ⟨m.absentViolation absence, ?_, Nat.le_refl _⟩
    rw [hm.eq_of_not_isAvailable habsent]
    refine mem_violations_evaluate_iff.mpr (.inr (.inl ⟨?_, habsent, rfl⟩))
    rintro rfl
    exact hne (List.subset_nil.mp hraws)
  · by_cases hsound : ∀ raw ∈ raws', ¬ isRefused raw
    · -- the banned pair is still there, so the pairs are still reported
      refine ⟨_, mem_violations_evaluate_iff.mpr (.inr (.inr ⟨hsound, ?_, ?_, rfl⟩)), ?_⟩
      · rw [hm.isAvailable, havailable]
      · exact ⟨raw, hraws hraw, r, hm.subset hr, hbans⟩
      · exact Violation.rank_override_le os rfl rfl
    · -- a further rule is refused, and its violation stays an error
      push Not at hsound
      obtain ⟨bad, hbad, hrefused⟩ := hsound
      rcases rejection?_cases bad with ⟨hfine, -⟩ | ⟨-, v, hsome, htells⟩
      · cases hfine.symm.trans hrefused
      · refine ⟨v, mem_violations_evaluate_iff.mpr (.inl ⟨bad, hbad, hsome⟩), ?_⟩
        rw [hos.severity_override htells.rule htells.severity]
        exact Severity.rank_le_error _

end Denylist

namespace Evaluation

theorem covers_fileBlock (os : Overrides) {required required' : List String}
    (h : required ⊆ required') (fileExists : String → Bool) :
    Covers os (fileBlock required fileExists) (fileBlock required' fileExists) := by
  intro v hv
  obtain ⟨⟨path, hpath, habsent⟩, rfl⟩ := mem_fileBlock_iff.mp hv
  refine ⟨_, mem_fileBlock_iff.mpr ⟨⟨path, h hpath, habsent⟩, rfl⟩, ?_⟩
  exact Violation.rank_override_le os rfl rfl

/-! ### Tightening -/

/-- `p'` is `p` with further required files and deny rules, at any places. -/
structure TightensPolicy (p p' : Policy) : Prop where
  titlePattern : p'.titlePattern = p.titlePattern
  requiredFiles : p.requiredFiles.Sublist p'.requiredFiles
  denylist : p.denylist.Sublist p'.denylist
  severities : p'.severities = p.severities
  lockfile : p'.lockfile = p.lockfile

/-- A manifest is supplied as before, or it has been read and has further records. -/
inductive TightensSupply : ManifestSupply → ManifestSupply → Prop where
  | same (supply : ManifestSupply) : TightensSupply supply supply
  | read {m m' : Manifest} (h : m.Extends m') : TightensSupply (.read m) (.read m')

/-- An evaluation is tightened: by its policy, its manifest, or the threshold that takes effect. -/
structure Tightens (policy policy' : Option Policy) (facts facts' : Facts) : Prop where
  rules : Option.Rel TightensPolicy policy policy'
  title : facts'.title = facts.title
  fileExists : facts'.fileExists = facts.fileExists
  manifest : TightensSupply facts.manifest facts'.manifest
  manifestSource : facts'.manifestSource = facts.manifestSource
  threshold : (thresholdOf policy' facts'.failOn).rank ≤ (thresholdOf policy facts.failOn).rank

theorem TightensSupply.supplied {supply supply' : ManifestSupply}
    (h : TightensSupply supply supply') (source : Option String) (lockfile : String) :
    (supplied supply source lockfile).Extends (supplied supply' source lockfile) := by
  cases h with
  | same => exact .same _
  | read hm => exact hm

theorem covers_blocks {os : Overrides} (hos : KeepsInvalid os) (absence : Severity)
    {p p' : Policy} {facts facts' : Facts} (hp : TightensPolicy p p')
    (htitle : facts'.title = facts.title) (hexists : facts'.fileExists = facts.fileExists)
    (hmanifest : TightensSupply facts.manifest facts'.manifest)
    (hsource : facts'.manifestSource = facts.manifestSource) :
    Covers os (blocks absence p facts) (blocks absence p' facts') := by
  unfold blocks
  rw [hp.titlePattern, htitle, hexists, hsource, hp.lockfile, denyBlock_eq, denyBlock_eq]
  have hfiles := covers_fileBlock os hp.requiredFiles.subset facts.fileExists
  have hdeny := Denylist.covers_evaluate hos absence hp.denylist.subset
    (hmanifest.supplied facts.manifestSource p.lockfile)
  exact ((Covers.of_subset (List.Subset.refl _)).append hfiles).append hdeny

theorem Stops.of_tightens {p p' : Policy} (hp : TightensPolicy p p') {cause : Pattern.Cause}
    (h : Stops (some p') cause) : Stops (some p) cause := by
  obtain ⟨q, source, position, hq, hsource, hfault, hforeign⟩ := h
  cases hq
  exact ⟨p, source, position, rfl, hp.titlePattern ▸ hsource, hfault, hforeign⟩

theorem covers_of_tightens {absence : Severity} {policy policy' : Option Policy}
    {facts facts' : Facts} {e e' : Evaluation} (h : evaluate absence policy facts = .ok e)
    (h' : evaluate absence policy' facts' = .ok e') (ht : Tightens policy policy' facts facts')
    (hos : KeepsInvalid (overridesOf policy)) :
    ∃ vs vs', e.violations = override (overridesOf policy) vs ∧
      e'.violations = override (overridesOf policy) vs' ∧
      Covers (overridesOf policy) vs vs' := by
  cases ht.rules with
  | none =>
    cases h
    cases h'
    exact ⟨_, _, rfl, rfl, .of_subset (List.Subset.refl _)⟩
  | @some p p' hp =>
    have hoverrides : overridesOf (some p) = p.severities := rfl
    rw [hoverrides] at hos ⊢
    rcases violations_evaluate h with ⟨source, fault, hsource, hfault, hvs⟩ | ⟨hcompiles, hvs⟩
    · have hvs' := violations_evaluate_of_error h' (hp.titlePattern.trans hsource) hfault
      rw [hp.severities] at hvs'
      exact ⟨_, _, hvs, hvs', .of_subset (List.Subset.refl _)⟩
    · have hvs' := violations_evaluate_of_compiles h' (hp.titlePattern ▸ hcompiles)
      rw [hp.severities] at hvs'
      exact ⟨_, _, hvs, hvs', covers_blocks hos absence hp ht.title ht.fileExists ht.manifest
        ht.manifestSource⟩

theorem exists_evaluate_of_tightens {absence : Severity} {policy policy' : Option Policy}
    {facts facts' : Facts} {e : Evaluation} (h : evaluate absence policy facts = .ok e)
    (ht : Tightens policy policy' facts facts') :
    ∃ e', evaluate absence policy' facts' = .ok e' := by
  rcases evaluate_cases absence policy' facts' with ⟨cause, -, hstops⟩ | ⟨e', h', -⟩
  · cases ht.rules with
    | none =>
      obtain ⟨q, -, -, hq, -⟩ := hstops
      cases hq
    | some hp =>
      have herror := (evaluate_eq_error_iff absence _ facts cause).mpr (hstops.of_tightens hp)
      cases h.symm.trans herror
  · exact ⟨e', h'⟩

/-- **What fails keeps failing when it is tightened,** if no override makes a warning of what
    malformed deny rules give. -/
theorem failing_of_tightens {absence : Severity} {policy policy' : Option Policy}
    {facts facts' : Facts} {e : Evaluation} (h : evaluate absence policy facts = .ok e)
    (ht : Tightens policy policy' facts facts')
    (hos : ∀ l, (overridesOf policy).get? Rule.denylistInvalid.id = some l → l.meaning ≠ .warn)
    (hfailing : e.verdict.failing = true) :
    ∃ e', evaluate absence policy' facts' = .ok e' ∧ e'.verdict.failing = true := by
  obtain ⟨e', h'⟩ := exists_evaluate_of_tightens h ht
  obtain ⟨vs, vs', hvs, hvs', hcovers⟩ := covers_of_tightens h h' ht hos
  refine ⟨e', h', ?_⟩
  rw [verdict_evaluate h] at hfailing
  rw [verdict_evaluate h']
  have hfail : shouldFail (thresholdOf policy facts.failOn)
      (override (overridesOf policy) vs) = true := hvs ▸ hfailing
  have hfail' := hcovers.shouldFail ht.threshold hfail
  rwa [← hvs'] at hfail'

/-- A policy that bans some versions of a package and makes their use a warning. -/
def laxPolicy : Policy where
  denylist := ["lodash@<4.17.21"]
  severities := [("dependency_denylist", .text "warn")]

/-- The policy with further rules around, of which one is malformed, and with a required file. -/
def tightPolicy : Policy :=
  { laxPolicy with
    denylist := ["request", "lodash@<4.17.21", "left-pad@one"]
    requiredFiles := ["NOTICE"] }

/-- What is locked already, under the threshold of warnings. -/
def lockedFacts (rs : List Record) : Facts where
  manifest := .read (.available (some .packages) rs none)
  failOn := some "warn"

theorem tightens_tightPolicy :
    Tightens (some laxPolicy) (some tightPolicy) (lockedFacts [⟨"lodash", "4.17.20"⟩])
      (lockedFacts [⟨"lodash", "4.17.20"⟩, ⟨"request", "2.88.2"⟩]) where
  rules := .some ⟨rfl, by decide, by decide, rfl, rfl⟩
  title := rfl
  fileExists := rfl
  manifest := .read (.records (by decide))
  manifestSource := rfl
  threshold := Nat.le_refl _

/-- The banned package is no longer reported, and the gate fails on the malformed rule. -/
theorem failing_of_tightens_tightPolicy :
    ∃ e, evaluate .warn (some laxPolicy) (lockedFacts [⟨"lodash", "4.17.20"⟩]) = .ok e ∧
      e.violations.map (·.rule) = ["dependency_denylist"] ∧ e.verdict.failing = true ∧
      ∃ e', evaluate .warn (some tightPolicy)
          (lockedFacts [⟨"lodash", "4.17.20"⟩, ⟨"request", "2.88.2"⟩]) = .ok e' ∧
        e'.verdict.failing = true := by
  have hos : KeepsInvalid (overridesOf (some laxPolicy)) := by
    intro l hl
    simp [overridesOf, laxPolicy, Overrides.get?, Rule.id] at hl
  refine ⟨_, rfl, by decide, by decide, ?_⟩
  exact failing_of_tightens rfl tightens_tightPolicy hos (by decide)

end Evaluation

end MergeGate
