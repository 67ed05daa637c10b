import MergeGate.Proofs.Evaluation.Totality

/-
  MergeGate/Proofs/Evaluation/Blocks.lean
  =======================================
  **An evaluation is made of blocks.**  What is found before severities are overridden is one
  violation, if there is no policy or its title pattern is at fault, and else three blocks in a
  fixed order:

    * `titleBlock`, of the title pattern and the title;
    * `fileBlock`, of the required files and of which files there are;
    * `denyBlock`, of the deny rules and the manifest.

  Each block is a function of its own inputs, and its violations are told from those of the other
  blocks by their rules.  So two evaluations agree on a block whenever they agree on its inputs,
  whatever else they differ in (`AgreeByBlock`).  The main statement is `evaluate_blocks`, which says
  of each block when there is a violation in it and what that tells.
-/

namespace MergeGate.Evaluation

open MergeGate.Text

/-! ### The blocks -/

/-- A title pattern is sound and matches from no position of the title on. -/
def Misses (source title : String) : Prop :=
  ∃ pattern, Pattern.ofText source.toList = .ok pattern ∧
    ∀ i, i ≤ title.toList.length → ¬ pattern.matchesAt title.toList.toArray i = true

theorem misses_iff {source : String} {pattern : Pattern}
    (h : Pattern.ofText source.toList = .ok pattern) (title : String) :
    Misses source title ↔ ¬ pattern.isFoundIn title.toList = true := by
  rw [Pattern.isFoundIn_iff]
  constructor
  · rintro ⟨pattern', h', hnowhere⟩ ⟨i, hi, hmatch⟩
    cases h.symm.trans h'
    exact hnowhere i hi hmatch
  · intro hnone
    exact ⟨pattern, h, fun i hi hmatch => hnone ⟨i, hi, hmatch⟩⟩

instance (source title : String) : Decidable (Misses source title) :=
  match h : Pattern.ofText source.toList with
  | .ok _ => decidable_of_iff _ (misses_iff h title).symm
  | .error _ => isFalse fun ⟨_, h', _⟩ => nomatch h.symm.trans h'

def titleBlock (pattern? : Option String) (title : String) : List Violation :=
  match pattern? with
  | none => []
  | some source => if Misses source title then [Ruling.titleMismatch source title] else []

/-- What the rule on required files finds: one violation that lists all missing ones. -/
def fileBlock (required : List String) (fileExists : String → Bool) : List Violation :=
  if ∃ path ∈ required, fileExists path = false
  then [Ruling.filesMissing (required.filter fun path => !fileExists path)]
  else []

theorem mem_titleBlock_iff {pattern? : Option String} {title : String} {v : Violation} :
    v ∈ titleBlock pattern? title ↔ ∃ source, pattern? = some source ∧ Misses source title ∧
      v = Ruling.titleMismatch source title := by
  unfold titleBlock
  cases pattern? with
  | none => simp
  | some source =>
    by_cases hmiss : Misses source title
    · simp [hmiss]
    · simp [hmiss]

theorem mem_fileBlock_iff {required : List String} {fileExists : String → Bool} {v : Violation} :
    v ∈ fileBlock required fileExists ↔ (∃ path ∈ required, fileExists path = false) ∧
      v = Ruling.filesMissing (required.filter fun path => !fileExists path) := by
  unfold fileBlock
  by_cases hmissing : ∃ path ∈ required, fileExists path = false
  · rw [if_pos hmissing, List.mem_singleton, and_iff_right hmissing]
  · rw [if_neg hmissing]
    constructor
    · intro hv
      cases hv
    · rintro ⟨h, -⟩
      exact absurd h hmissing

/-- The manifest that is supplied: as it was read, or read now under the name that it is given or
    else the name in the policy. -/
def supplied (supply : ManifestSupply) (source : Option String) (lockfile : String) : Manifest :=
  match supply with
  | .read m => m
  | .content c => Manifest.read c (some (filledOr source lockfile))

def denyBlock (absence : Severity) (denylist : List String) (m : Manifest) : List Violation :=
  if denylist = [] then [] else (Denylist.evaluate absence denylist m).violations

theorem oneIf_titleBlock (pattern? : Option String) (title : String) :
    OneIf (∃ source, pattern? = some source ∧ Misses source title)
      (fun v => ∃ source, pattern? = some source ∧ v.TellsTitle source title)
      (titleBlock pattern? title) := by
  unfold titleBlock
  cases pattern? with
  | none => exact .none (by simp)
  | some source =>
    simp only [Option.some.injEq, exists_eq_left']
    exact oneIf_ite fun _ => Violation.tellsTitle_titleMismatch source title

theorem oneIf_fileBlock (required : List String) (fileExists : String → Bool) :
    OneIf (∃ path ∈ required, fileExists path = false)
      (Violation.TellsFiles (required.filter fun path => !fileExists path))
      (fileBlock required fileExists) :=
  oneIf_ite fun _ => Violation.tellsFiles_filesMissing _

theorem denyBlock_eq (absence : Severity) (denylist : List String) (m : Manifest) :
    denyBlock absence denylist m = (Denylist.evaluate absence denylist m).violations := by
  unfold denyBlock
  by_cases hempty : denylist = []
  · rw [if_pos hempty, hempty]
    rfl
  · rw [if_neg hempty]

def blocks (absence : Severity) (p : Policy) (facts : Facts) : List Violation :=
  titleBlock p.titlePattern (facts.title.getD "") ++ fileBlock p.requiredFiles facts.fileExists ++
    denyBlock absence p.denylist (supplied facts.manifest facts.manifestSource p.lockfile)

/-- There is no title pattern, or it is sound. -/
def Compiles (pattern? : Option String) : Prop :=
  ∀ source, pattern? = some source → ∃ pattern, Pattern.ofText source.toList = .ok pattern

theorem compiles_iff (pattern? : Option String) :
    Compiles pattern? ↔
      pattern?.all (fun source => (Pattern.ofText source.toList).toBool) = true := by
  cases pattern? with
  | none => simp [Compiles]
  | some source =>
    cases h : Pattern.ofText source.toList with
    | error fault => simp [Compiles, h, Except.toBool]
    | ok pattern => simp [Compiles, h, Except.toBool]

instance (pattern? : Option String) : Decidable (Compiles pattern?) :=
  decidable_of_iff _ (compiles_iff pattern?).symm

theorem compiles_none : Compiles none := (compiles_iff none).mpr rfl

theorem not_compiles_of_error {pattern? : Option String} {source : String} {fault : Pattern.Fault}
    (hsource : pattern? = some source) (hfault : Pattern.ofText source.toList = .error fault) :
    ¬ Compiles pattern? := by
  intro hcompiles
  obtain ⟨pattern, hread⟩ := hcompiles source hsource
  cases hfault.symm.trans hread

/-! ### The blocks in an evaluation -/

theorem FindsInTitle.eq_titleBlock {title : String} {pattern? : Option String}
    {vs : List Violation} (h : FindsInTitle title pattern? vs) :
    Compiles pattern? ∧ vs = titleBlock pattern? title := by
  cases h with
  | unasked => exact ⟨compiles_none, rfl⟩
  | @asked source pattern hread =>
    constructor
    · intro source' h
      cases h
      exact ⟨pattern, hread⟩
    · unfold titleBlock Ruling.ofTitle
      dsimp only
      by_cases hfound : pattern.isFoundIn title.toList = true
      · have hhit : ¬ Misses source title := fun h => (misses_iff hread title).mp h hfound
        rw [if_pos hfound, if_neg hhit]
      · have hmiss : Misses source title := (misses_iff hread title).mpr hfound
        rw [if_neg hfound, if_pos hmiss]

theorem ofFiles_eq_fileBlock (required : List String) (fileExists : String → Bool) :
    Ruling.ofFiles required fileExists = fileBlock required fileExists := by
  unfold Ruling.ofFiles fileBlock
  dsimp only
  by_cases hmissing : ∃ path ∈ required, fileExists path = false
  · have hsome : (required.filter fun path => !fileExists path).isEmpty = false := by
      obtain ⟨path, hpath, habsent⟩ := hmissing
      rw [List.isEmpty_eq_false_iff_exists_mem]
      exact ⟨path, List.mem_filter.mpr ⟨hpath, by simp [habsent]⟩⟩
    rw [if_pos hmissing, hsome]
    rfl
  · have hnone : (required.filter fun path => !fileExists path).isEmpty = true := by
      rw [List.isEmpty_iff, List.filter_eq_nil_iff]
      intro path hpath habsent
      exact hmissing ⟨path, hpath, by simpa using habsent⟩
    rw [if_neg hmissing, hnone]
    rfl

theorem suppliedManifest_eq (p : Policy) (facts : Facts) :
    suppliedManifest p facts = supplied facts.manifest facts.manifestSource p.lockfile := by
  unfold suppliedManifest manifestOf supplied
  cases facts.manifest with
  | read m => rfl
  | content c => rfl

theorem violations_denied_eq_denyBlock (absence : Severity) (p : Policy) (facts : Facts) :
    (denied absence p facts).violations =
      denyBlock absence p.denylist (supplied facts.manifest facts.manifestSource p.lockfile) := by
  rw [violations_denied, suppliedManifest_eq, denyBlock_eq]

/-- What is found under a policy: its pattern is at fault, or there are three blocks. -/
theorem violations_found {absence : Severity} {p : Policy} {facts : Facts} {findings : Findings}
    (h : found absence (some p) facts = .ok findings) :
    (∃ source fault, p.titlePattern = some source ∧ Pattern.ofText source.toList = .error fault ∧
      findings.violations = [Ruling.patternInvalid source fault]) ∨
    (Compiles p.titlePattern ∧ findings.violations = blocks absence p facts) := by
  unfold found at h
  rcases ofPolicy_cases p (facts.title.getD "") facts.fileExists with
    ⟨cause, hruling, -⟩ | ⟨source, fault, hsource, hfault, -, hruling⟩ | ⟨titled, htitle, hruling⟩
  · rw [hruling] at h
    cases h
  · rw [hruling] at h
    cases h
    exact .inl ⟨source, fault, hsource, hfault, rfl⟩
  · rw [hruling] at h
    cases h
    obtain ⟨hcompiles, rfl⟩ := htitle.eq_titleBlock
    refine .inr ⟨hcompiles, ?_⟩
    dsimp only
    rw [ofFiles_eq_fileBlock, violations_denied_eq_denyBlock, blocks]

/-- What follows from findings: severities are overridden, and the verdict is given. -/
def concluded (policy : Option Policy) (facts : Facts) (findings : Findings) : Evaluation :=
  let violations := override (overridesOf policy) findings.violations
  let verdict := verdictOf (thresholdOf policy facts.failOn) violations
  ⟨violations, verdict, findings.notes ++ [.evaluated violations.length verdict]⟩

theorem evaluate_eq_map (absence : Severity) (policy : Option Policy) (facts : Facts) :
    evaluate absence policy facts = (found absence policy facts).map (concluded policy facts) := by
  unfold evaluate
  cases found absence policy facts with
  | error cause => rfl
  | ok findings => rfl

theorem evaluate_eq_ok_iff {absence : Severity} {policy : Option Policy} {facts : Facts}
    {e : Evaluation} :
    evaluate absence policy facts = .ok e ↔
      ∃ findings, found absence policy facts = .ok findings ∧
        e = concluded policy facts findings := by
  rw [evaluate_eq_map]
  cases found absence policy facts with
  | error cause => simp [Except.map]
  | ok findings => simp [Except.map, eq_comm]

theorem violations_evaluate {absence : Severity} {p : Policy} {facts : Facts} {e : Evaluation}
    (h : evaluate absence (some p) facts = .ok e) :
    (∃ source fault, p.titlePattern = some source ∧ Pattern.ofText source.toList = .error fault ∧
      e.violations = override p.severities [Ruling.patternInvalid source fault]) ∨
    (Compiles p.titlePattern ∧ e.violations = override p.severities (blocks absence p facts)) := by
  obtain ⟨findings, hfound, rfl⟩ := evaluate_eq_ok_iff.mp h
  have hoverride : (concluded (some p) facts findings).violations =
      override p.severities findings.violations := rfl
  rcases violations_found hfound with
    ⟨source, fault, hsource, hfault, hvs⟩ | ⟨hcompiles, hvs⟩
  · exact .inl ⟨source, fault, hsource, hfault, by rw [hoverride, hvs]⟩
  · exact .inr ⟨hcompiles, by rw [hoverride, hvs]⟩

theorem violations_evaluate_of_compiles {absence : Severity} {p : Policy} {facts : Facts}
    {e : Evaluation} (h : evaluate absence (some p) facts = .ok e)
    (hcompiles : Compiles p.titlePattern) :
    e.violations = override p.severities (blocks absence p facts) := by
  rcases violations_evaluate h with ⟨source, fault, hsource, hfault, -⟩ | ⟨-, hvs⟩
  · exact absurd hcompiles (not_compiles_of_error hsource hfault)
  · exact hvs

theorem violations_evaluate_of_error {absence : Severity} {p : Policy} {facts : Facts}
    {e : Evaluation} {source : String} {fault : Pattern.Fault}
    (h : evaluate absence (some p) facts = .ok e) (hsource : p.titlePattern = some source)
    (hfault : Pattern.ofText source.toList = .error fault) :
    e.violations = override p.severities [Ruling.patternInvalid source fault] := by
  rcases violations_evaluate h with ⟨source', fault', hsource', hfault', hvs⟩ | ⟨hcompiles, -⟩
  · cases hsource.symm.trans hsource'
    cases hfault.symm.trans hfault'
    exact hvs
  · exact absurd hcompiles (not_compiles_of_error hsource hfault)

/-! ### Telling the blocks apart -/

/-- The rule of the title block. -/
def titleRules : List Rule := [.titleMismatch]

/-- The rule of the block of files. -/
def fileRules : List Rule := [.requiredFiles]

/-- The rules of the block of deny rules. -/
def denyRules : List Rule := [.denylistInvalid, .manifestMissing, .denylist]

/-- Whether a violation is of one of some rules. -/
def IsOf (rules : List Rule) (v : Violation) : Prop := ∃ r ∈ rules, r.id = v.rule

instance (rules : List Rule) (v : Violation) : Decidable (IsOf rules v) :=
  inferInstanceAs (Decidable (∃ r ∈ rules, r.id = v.rule))

/-- The violations of some rules, in their order. -/
def ofRules (rules : List Rule) (vs : List Violation) : List Violation :=
  vs.filter fun v => IsOf rules v

theorem id_injective : Function.Injective Rule.id := by
  intro r s h
  revert h
  cases r <;> cases s <;> decide

theorem IsOf.not_of_apart {rules rules' : List Rule} {v : Violation} (h : IsOf rules v)
    (hapart : ∀ r ∈ rules, r ∉ rules') : ¬ IsOf rules' v := by
  rintro ⟨r', hr', hid'⟩
  obtain ⟨r, hr, hid⟩ := h
  have hsame : r = r' := id_injective (hid.trans hid'.symm)
  exact hapart r hr (hsame ▸ hr')

theorem ofRules_append (rules : List Rule) (vs ws : List Violation) :
    ofRules rules (vs ++ ws) = ofRules rules vs ++ ofRules rules ws :=
  List.filter_append vs ws

theorem ofRules_override (rules : List Rule) (os : Overrides) (vs : List Violation) :
    ofRules rules (override os vs) = override os (ofRules rules vs) := by
  have hsame : ∀ v, IsOf rules (v.override os) ↔ IsOf rules v := by
    intro v
    rw [IsOf, Violation.override_rule, IsOf]
  unfold ofRules override
  rw [List.filter_map]
  congr 1
  apply List.filter_congr
  intro v _
  exact decide_eq_decide.mpr (hsame v)

theorem ofRules_eq_self {rules : List Rule} {vs : List Violation} (h : ∀ v ∈ vs, IsOf rules v) :
    ofRules rules vs = vs :=
  List.filter_eq_self.mpr fun v hv => decide_eq_true (h v hv)

theorem ofRules_eq_nil {rules rules' : List Rule} {vs : List Violation}
    (h : ∀ v ∈ vs, IsOf rules v) (hapart : ∀ r ∈ rules, r ∉ rules') : ofRules rules' vs = [] := by
  rw [ofRules, List.filter_eq_nil_iff]
  intro v hv hof
  exact (h v hv).not_of_apart hapart (of_decide_eq_true hof)

theorem isOf_titleBlock (pattern? : Option String) (title : String) :
    ∀ v ∈ titleBlock pattern? title, IsOf titleRules v := by
  intro v hv
  obtain ⟨source, -, -, rfl⟩ := mem_titleBlock_iff.mp hv
  exact ⟨.titleMismatch, by decide, rfl⟩

theorem isOf_fileBlock (required : List String) (fileExists : String → Bool) :
    ∀ v ∈ fileBlock required fileExists, IsOf fileRules v := by
  intro v hv
  obtain ⟨-, rfl⟩ := mem_fileBlock_iff.mp hv
  exact ⟨.requiredFiles, by decide, rfl⟩

theorem isOf_denyBlock (absence : Severity) (denylist : List String) (m : Manifest) :
    ∀ v ∈ denyBlock absence denylist m, IsOf denyRules v := by
  intro v hv
  rw [denyBlock_eq] at hv
  rcases Denylist.mem_violations_evaluate_iff.mp hv with
    ⟨raw, -, hrejection⟩ | ⟨-, -, rfl⟩ | ⟨-, -, -, rfl⟩
  · exact ⟨.denylistInvalid, by decide, (Denylist.rejection?_eq_some hrejection).2.rule.symm⟩
  · exact ⟨.manifestMissing, by decide, rfl⟩
  · exact ⟨.denylist, by decide, rfl⟩

theorem ofRules_blocks (absence : Severity) (p : Policy) (facts : Facts) :
    ofRules titleRules (blocks absence p facts) =
        titleBlock p.titlePattern (facts.title.getD "") ∧
      ofRules fileRules (blocks absence p facts) = fileBlock p.requiredFiles facts.fileExists ∧
      ofRules denyRules (blocks absence p facts) = denyBlock absence p.denylist
        (supplied facts.manifest facts.manifestSource p.lockfile) := by
  have htitle := isOf_titleBlock p.titlePattern (facts.title.getD "")
  have hfiles := isOf_fileBlock p.requiredFiles facts.fileExists
  have hdeny := isOf_denyBlock absence p.denylist
    (supplied facts.manifest facts.manifestSource p.lockfile)
  unfold blocks
  refine ⟨?_, ?_, ?_⟩
  · rw [ofRules_append, ofRules_append, ofRules_eq_self htitle,
      ofRules_eq_nil hfiles (by decide), ofRules_eq_nil hdeny (by decide), List.append_nil,
      List.append_nil]
  · rw [ofRules_append, ofRules_append, ofRules_eq_nil htitle (by decide),
      ofRules_eq_self hfiles, ofRules_eq_nil hdeny (by decide), List.nil_append, List.append_nil]
  · rw [ofRules_append, ofRules_append, ofRules_eq_nil htitle (by decide),
      ofRules_eq_nil hfiles (by decide), ofRules_eq_self hdeny, List.nil_append]
    rfl

/-! ### Two evaluations -/

/-- What two evaluations find agrees block by block wherever they are given the same for the block,
    whatever else they are given. -/
structure AgreeByBlock (p p' : Policy) (facts facts' : Facts) (vs vs' : List Violation) :
    Prop where
  /-- A pattern that is at fault decides all. -/
  faulty : ¬ Compiles p.titlePattern → p'.titlePattern = p.titlePattern → vs' = vs
  title : p'.titlePattern = p.titlePattern → facts'.title.getD "" = facts.title.getD "" →
    ofRules titleRules vs' = ofRules titleRules vs
  files : Compiles p.titlePattern → Compiles p'.titlePattern →
    p'.requiredFiles = p.requiredFiles →
    (∀ path ∈ p.requiredFiles, facts'.fileExists path = facts.fileExists path) →
    ofRules fileRules vs' = ofRules fileRules vs
  /-- Without deny rules, manifests may differ. -/
  dependencies : Compiles p.titlePattern → Compiles p'.titlePattern → p'.denylist = p.denylist →
    (p.denylist ≠ [] → supplied facts'.manifest facts'.manifestSource p'.lockfile =
      supplied facts.manifest facts.manifestSource p.lockfile) →
    ofRules denyRules vs' = ofRules denyRules vs

theorem fileBlock_congr {required : List String} {fileExists fileExists' : String → Bool}
    (h : ∀ path ∈ required, fileExists' path = fileExists path) :
    fileBlock required fileExists' = fileBlock required fileExists := by
  have hsome : (∃ path ∈ required, fileExists' path = false) ↔
      ∃ path ∈ required, fileExists path = false := by
    apply exists_congr
    intro path
    apply and_congr_right
    intro hpath
    rw [h path hpath]
  have hmissing : (required.filter fun path => !fileExists' path) =
      required.filter fun path => !fileExists path := by
    apply List.filter_congr
    intro path hpath
    rw [h path hpath]
  simp only [fileBlock, hsome, hmissing]

theorem denyBlock_congr (absence : Severity) {denylist : List String} {m m' : Manifest}
    (h : denylist ≠ [] → m' = m) :
    denyBlock absence denylist m' = denyBlock absence denylist m := by
  unfold denyBlock
  by_cases hempty : denylist = []
  · rw [if_pos hempty, if_pos hempty]
  · rw [h hempty]

theorem agreeByBlock {absence : Severity} {p p' : Policy} {facts facts' : Facts}
    {e e' : Evaluation} (h : evaluate absence (some p) facts = .ok e)
    (h' : evaluate absence (some p') facts' = .ok e') (hseverities : p'.severities = p.severities) :
    AgreeByBlock p p' facts facts' e.violations e'.violations := by
  have hfaulty : ¬ Compiles p.titlePattern → p'.titlePattern = p.titlePattern →
      e'.violations = e.violations := by
    intro hfault htitle
    rcases violations_evaluate h with ⟨source, fault, hsource, hread, hvs⟩ | ⟨hcompiles, -⟩
    · rw [hvs, violations_evaluate_of_error h' (htitle.trans hsource) hread, hseverities]
    · exact absurd hcompiles hfault
  obtain ⟨ht, hf, hd⟩ := ofRules_blocks absence p facts
  obtain ⟨ht', hf', hd'⟩ := ofRules_blocks absence p' facts'
  refine ⟨hfaulty, ?_, ?_, ?_⟩
  · intro hpattern htitle
    by_cases hc : Compiles p.titlePattern
    · have hc' : Compiles p'.titlePattern := hpattern ▸ hc
      rw [violations_evaluate_of_compiles h hc, violations_evaluate_of_compiles h' hc',
        ofRules_override, ofRules_override, ht, ht', hseverities, hpattern, htitle]
    · rw [hfaulty hc hpattern]
  · intro hc hc' hrequired hexists
    rw [violations_evaluate_of_compiles h hc, violations_evaluate_of_compiles h' hc',
      ofRules_override, ofRules_override, hf, hf', hseverities, hrequired, fileBlock_congr hexists]
  · intro hc hc' hdenylist hsupplied
    rw [violations_evaluate_of_compiles h hc, violations_evaluate_of_compiles h' hc',
      ofRules_override, ofRules_override, hd, hd', hseverities, hdenylist,
      denyBlock_congr absence hsupplied]

/-- What is found under a policy, before severities are overridden: the block of the title, that of the
    files and that of the deny rules. -/
structure IsBlocks (absence : Severity) (p : Policy) (facts : Facts) (title files denied : List Violation) :
    Prop where
  title : OneIf (∃ source, p.titlePattern = some source ∧ Misses source (facts.title.getD ""))
    (fun v => ∃ source, p.titlePattern = some source ∧ v.TellsTitle source (facts.title.getD "")) title
  /-- All missing files are told, in the order of the policy and as often as they stand there. -/
  files : OneIf (∃ path ∈ p.requiredFiles, facts.fileExists path = false)
    (Violation.TellsFiles (p.requiredFiles.filter fun path => !facts.fileExists path)) files
  dependencies : denied = if p.denylist = [] then [] else (Denylist.evaluate absence p.denylist
    (supplied facts.manifest facts.manifestSource p.lockfile)).violations

theorem isBlocks (absence : Severity) (p : Policy) (facts : Facts) :
    IsBlocks absence p facts (titleBlock p.titlePattern (facts.title.getD ""))
      (fileBlock p.requiredFiles facts.fileExists)
      (denyBlock absence p.denylist (supplied facts.manifest facts.manifestSource p.lockfile)) :=
  ⟨oneIf_titleBlock _ _, oneIf_fileBlock _ _, rfl⟩

theorem violations_evaluate_none {absence : Severity} {facts : Facts} {e : Evaluation}
    (h : evaluate absence none facts = .ok e) : e.violations = [Ruling.policyMissing] := by
  cases h
  exact override_nil [Ruling.policyMissing]

/-- **An evaluation is made of blocks.**  Whenever an evaluation comes to its end:

    1. without a policy it finds one violation, that there is none, and finds the same on all facts;
    2. with a title pattern that is at fault it finds one violation, of the pattern;
    3. else it finds the block of the title, then that of the files, then that of the deny rules;
    4. it agrees block by block with every other evaluation that comes to its end, as long as the
       severities are overridden alike. -/
theorem evaluate_blocks {absence : Severity} {policy : Option Policy} {facts : Facts}
    {e : Evaluation} (h : evaluate absence policy facts = .ok e) :
    (policy = none → (∃ v, v.TellsNoPolicy ∧ e.violations = [v]) ∧
      ∀ absence' facts' e', evaluate absence' none facts' = .ok e' → e'.violations = e.violations) ∧
    ∀ p, policy = some p →
      (∀ source fault, p.titlePattern = some source →
        Pattern.ofText source.toList = .error fault →
        ∃ v, v.TellsPattern source fault ∧ e.violations = override p.severities [v]) ∧
      (Compiles p.titlePattern → ∃ title files denied, IsBlocks absence p facts title files denied ∧
        e.violations = override p.severities (title ++ files ++ denied)) ∧
      ∀ p' facts' e', evaluate absence (some p') facts' = .ok e' →
        p'.severities = p.severities →
        AgreeByBlock p p' facts facts' e.violations e'.violations := by
  constructor
  · rintro rfl
    refine ⟨⟨_, Violation.tellsNoPolicy_policyMissing, violations_evaluate_none h⟩, ?_⟩
    intro absence' facts' e' h'
    rw [violations_evaluate_none h, violations_evaluate_none h']
  · rintro p rfl
    refine ⟨?_, ?_, ?_⟩
    · intro source fault hsource hfault
      exact ⟨_, Violation.tellsPattern_patternInvalid source fault,
        violations_evaluate_of_error h hsource hfault⟩
    · intro hcompiles
      exact ⟨_, _, _, isBlocks absence p facts, violations_evaluate_of_compiles h hcompiles⟩
    · intro p' facts' e' h' hseverities
      exact agreeByBlock h h' hseverities

/-- A policy with a pattern, a required file that is listed twice and a deny rule with a range. -/
def strictPolicy : Policy where
  titlePattern := some "^feat"
  requiredFiles := ["NOTICE", "README.md", "LICENSE", "NOTICE"]
  denylist := ["lodash@<4.17.21"]
  severities := [("required_files", .text " Warning")]

/-- Facts that break every rule of `strictPolicy`. -/
def looseFacts : Facts where
  title := some "fix: typo"
  fileExists := fun path => path = "README.md"
  manifest := .read (.available none [⟨"lodash", "4.17.20"⟩] none)

/-- Each rule is broken once, and both places of `NOTICE` are told, with `LICENSE` between them. -/
theorem evaluate_blocks_strictPolicy :
    ∃ e, evaluate .warn (some strictPolicy) looseFacts = .ok e ∧
      e.violations.map (·.rule) = ["pr_title_regex", "required_files", "dependency_denylist"] ∧
      ∃ title files denied, IsBlocks .warn strictPolicy looseFacts title files denied ∧
        e.violations = override strictPolicy.severities (title ++ files ++ denied) ∧
        files.map (·.context) =
          [[("missing", .list [.text "NOTICE", .text "LICENSE", .text "NOTICE"])]] := by
  have hends : (match evaluate .warn (some strictPolicy) looseFacts with
      | .ok e => e.violations.map (·.rule)
      | .error _ => []) = ["pr_title_regex", "required_files", "dependency_denylist"] := by
    decide +kernel
  have hcompiles : Compiles strictPolicy.titlePattern := by decide +kernel
  have hmissing : ∃ path ∈ strictPolicy.requiredFiles, looseFacts.fileExists path = false :=
    ⟨"LICENSE", by decide, by decide⟩
  cases he : evaluate .warn (some strictPolicy) looseFacts with
  | error cause =>
    rw [he] at hends
    cases hends
  | ok e =>
    rw [he] at hends
    obtain ⟨title, files, denied, hblocks, hvs⟩ :=
      ((evaluate_blocks he).2 strictPolicy rfl).2.1 hcompiles
    refine ⟨e, rfl, hends, title, files, denied, hblocks, hvs, ?_⟩
    cases hblocks.files with
    | none hnone => exact absurd hmissing hnone
    | one _ htells =>
      rw [List.map_singleton, htells.context]
      rfl

end MergeGate.Evaluation
