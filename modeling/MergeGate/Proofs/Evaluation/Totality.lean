import MergeGate.Evaluation
import MergeGate.Proofs.Denylist.Matches
import MergeGate.Proofs.Manifest.Listing
import MergeGate.Proofs.Pattern.Foreign
import MergeGate.Proofs.Pattern.LongCount
import MergeGate.Proofs.Range.Sizes

/-
  MergeGate/Proofs/Evaluation/Totality.lean
  =========================================
  **When an evaluation comes to its end.**  An evaluation stops without a result for one reason
  only: the policy has a title pattern with a fault that lies outside the grammar of patterns
  (`Stops`).  Nothing else that is malformed stops it.  A policy that is missing, a pattern that is at fault, a
  range that cannot be read and a manifest that holds no JSON object each become a violation, and
  a version that cannot be read matches no range (`Accounts`).

  The main statement is `evaluate_total`.  It also says where such a fault of a pattern comes from,
  and that no comparison of versions meets a number that is too long to be read.
-/

namespace MergeGate.Evaluation

open MergeGate.Text

/-! ### What an evaluation comes to -/

/-- A policy stops its evaluation by a cause: its title pattern has a foreign fault. -/
def Stops (policy : Option Policy) (cause : Pattern.Cause) : Prop :=
  ∃ p source position, policy = some p ∧ p.titlePattern = some source ∧
    Pattern.ofText source.toList = .error ⟨cause, position⟩ ∧ cause.isForeign = true

/-- The manifest that the deny rules of a policy are compared with. -/
def suppliedManifest (p : Policy) (facts : Facts) : Manifest :=
  (manifestOf facts.manifest (filledOr facts.manifestSource p.lockfile)).1

/-- What a policy finds in the title, unless its pattern is at fault. -/
inductive FindsInTitle (title : String) : Option String → List Violation → Prop where
  | unasked : FindsInTitle title none []
  | asked {source : String} {pattern : Pattern} (h : Pattern.ofText source.toList = .ok pattern) :
      FindsInTitle title (some source) (Ruling.ofTitle pattern source title)

/-- The violations that policy and facts account for, before severities are overridden. -/
inductive Accounts (absence : Severity) (facts : Facts) :
    Option Policy → List Violation → Prop where
  | unconfigured : Accounts absence facts none [Ruling.policyMissing]
  /-- A pattern that is at fault is a violation, and nothing else is looked at. -/
  | faulty {p : Policy} {source : String} {fault : Pattern.Fault}
      (hsource : p.titlePattern = some source)
      (hfault : Pattern.ofText source.toList = .error fault)
      (hown : fault.cause.isForeign = false) :
      Accounts absence facts (some p) [Ruling.patternInvalid source fault]
  /-- Title and files come before the deny rules, whose refused ranges, absent records and banned
      pairs are listed. -/
  | judged {p : Policy} {titled : List Violation} {places : List (Nat × Nat)} {ms : List Match}
      (htitle : FindsInTitle (facts.title.getD "") p.titlePattern titled)
      (hlists : Denylist.Lists p.denylist (suppliedManifest p facts).records places ms) :
      Accounts absence facts (some p)
        (titled ++ Ruling.ofFiles p.requiredFiles facts.fileExists ++
          Denylist.reported absence p.denylist (suppliedManifest p facts) ms)

/-! ### The parts of an evaluation -/

theorem violations_denied (absence : Severity) (p : Policy) (facts : Facts) :
    (denied absence p facts).violations =
      (Denylist.evaluate absence p.denylist (suppliedManifest p facts)).violations := by
  unfold denied
  split
  · rename_i hempty
    rw [List.isEmpty_iff.mp hempty]
    rfl
  · rfl

/-- A ruling on title and files stops, is final, or leaves the deny rules to be looked at. -/
theorem ofPolicy_cases (p : Policy) (title : String) (fileExists : String → Bool) :
    (∃ cause, Ruling.ofPolicy (some p) title fileExists = .error cause ∧ Stops (some p) cause) ∨
    (∃ source fault, p.titlePattern = some source ∧ Pattern.ofText source.toList = .error fault ∧
      fault.cause.isForeign = false ∧
      Ruling.ofPolicy (some p) title fileExists =
        .ok ⟨[Ruling.patternInvalid source fault], true⟩) ∨
    ∃ titled, FindsInTitle title p.titlePattern titled ∧
      Ruling.ofPolicy (some p) title fileExists =
        .ok ⟨titled ++ Ruling.ofFiles p.requiredFiles fileExists, false⟩ := by
  unfold Ruling.ofPolicy
  dsimp only
  cases hsource : p.titlePattern with
  | none => exact .inr (.inr ⟨[], .unasked, rfl⟩)
  | some source =>
    dsimp only
    cases hread : Pattern.ofText source.toList with
    | ok pattern => exact .inr (.inr ⟨_, .asked hread, rfl⟩)
    | error fault =>
      dsimp only
      cases hforeign : fault.cause.isForeign with
      | true =>
        exact .inl ⟨fault.cause, rfl, p, source, fault.position, rfl, hsource, hread, hforeign⟩
      | false => exact .inr (.inl ⟨source, fault, rfl, hread, hforeign, rfl⟩)

/-- An evaluation stops, or it comes to violations that are accounted for. -/
theorem found_cases (absence : Severity) (policy : Option Policy) (facts : Facts) :
    (∃ cause, found absence policy facts = .error cause ∧ Stops policy cause) ∨
    ∃ findings, found absence policy facts = .ok findings ∧
      Accounts absence facts policy findings.violations := by
  unfold found
  cases policy with
  | none => exact .inr ⟨_, rfl, .unconfigured⟩
  | some p =>
    rcases ofPolicy_cases p (facts.title.getD "") facts.fileExists with
      ⟨cause, hruling, hstops⟩ | ⟨source, fault, hsource, hfault, hown, hruling⟩ |
      ⟨titled, htitle, hruling⟩
    · refine .inl ⟨cause, ?_, hstops⟩
      rw [hruling]
      rfl
    · rw [hruling]
      exact .inr ⟨_, rfl, .faulty hsource hfault hown⟩
    · rw [hruling]
      refine .inr ⟨_, rfl, ?_⟩
      dsimp only
      rw [violations_denied, Denylist.violations_evaluate]
      exact .judged htitle (Denylist.lists_bannedPairs p.denylist _)

theorem Stops.unique {policy : Option Policy} {c d : Pattern.Cause} (hc : Stops policy c)
    (hd : Stops policy d) : c = d := by
  obtain ⟨p, source, position, rfl, hsource, hfault, -⟩ := hc
  obtain ⟨p', source', position', hp, hsource', hfault', -⟩ := hd
  cases hp
  cases hsource.symm.trans hsource'
  cases hfault.symm.trans hfault'
  rfl

/-- A policy that stops its evaluation accounts for nothing. -/
theorem Accounts.not_stops {absence : Severity} {facts : Facts} {policy : Option Policy}
    {vs : List Violation} (h : Accounts absence facts policy vs) (cause : Pattern.Cause) :
    ¬ Stops policy cause := by
  rintro ⟨p, source, position, rfl, hsource, hfault, hforeign⟩
  cases h with
  | faulty hsource' hfault' hown =>
    cases hsource.symm.trans hsource'
    cases hfault.symm.trans hfault'
    rw [hforeign] at hown
    cases hown
  | judged htitle _ =>
    rw [hsource] at htitle
    cases htitle with
    | asked hread =>
      rw [hfault] at hread
      cases hread

/-! ### The whole evaluation -/

/-- `e` is what comes of violations that are accounted for: their severities are overridden, and
    the verdict follows from them and the threshold. -/
def Completes (absence : Severity) (policy : Option Policy) (facts : Facts) (e : Evaluation) :
    Prop :=
  ∃ vs, Accounts absence facts policy vs ∧ e.violations = override (overridesOf policy) vs ∧
    e.verdict = verdictOf (thresholdOf policy facts.failOn) e.violations

/-- An evaluation stops, or it completes. -/
theorem evaluate_cases (absence : Severity) (policy : Option Policy) (facts : Facts) :
    (∃ cause, evaluate absence policy facts = .error cause ∧ Stops policy cause) ∨
    ∃ e, evaluate absence policy facts = .ok e ∧ Completes absence policy facts e := by
  unfold evaluate
  rcases found_cases absence policy facts with
    ⟨cause, hfound, hstops⟩ | ⟨findings, hfound, haccounts⟩
  · refine .inl ⟨cause, ?_, hstops⟩
    rw [hfound]
    rfl
  · rw [hfound]
    exact .inr ⟨_, rfl, findings.violations, haccounts, rfl, rfl⟩

theorem evaluate_eq_error_iff (absence : Severity) (policy : Option Policy) (facts : Facts)
    (cause : Pattern.Cause) :
    evaluate absence policy facts = .error cause ↔ Stops policy cause := by
  rcases evaluate_cases absence policy facts with
    ⟨cause', herror, hstops⟩ | ⟨e, hok, vs, haccounts, -, -⟩
  · rw [herror, Except.error.injEq]
    constructor
    · rintro rfl
      exact hstops
    · exact fun h => hstops.unique h
  · rw [hok]
    constructor
    · intro h
      cases h
    · exact fun h => absurd h (haccounts.not_stops cause)

theorem stops_counted {ds : List Char} (hds : ∀ d ∈ ds, isAsciiDigit d = true)
    (hlong : digitLimit < ds.length) :
    Stops (some { titlePattern := some (String.ofList (Pattern.counted ds)) })
      (.countTooLong ds.length) := by
  refine ⟨_, _, none, rfl, rfl, ?_, rfl⟩
  rw [String.toList_ofList]
  exact Pattern.ofText_counted hds hlong

/-- **An evaluation completes unless the title pattern has a foreign fault.**

    1. It ends in an error exactly if the policy stops it, by the same cause; whatever the facts
       are, it completes otherwise.
    2. A policy stops its evaluation only if its pattern holds a row of digits longer than a number
       may be, or the letters of two contrary modes.
    3. Every letter with a count that is too long is a pattern that does so.
    4. There is a list of records exactly if the content of the manifest holds a JSON object.
    5. Versions that are compared with each other have short numbers on both sides. -/
theorem evaluate_completes_or_stops (absence : Severity) (policy : Option Policy) (facts : Facts) :
    ((∀ cause, evaluate absence policy facts = .error cause ↔ Stops policy cause) ∧
      ((∀ cause, ¬ Stops policy cause) →
        ∃ e, evaluate absence policy facts = .ok e ∧ Completes absence policy facts e)) ∧
    (∀ cause, Stops policy cause → ∃ p source, policy = some p ∧ p.titlePattern = some source ∧
      ((∃ ds : List Char, ds <:+: source.toList ∧ (∀ d ∈ ds, isAsciiDigit d = true) ∧
          digitLimit < ds.length ∧ cause = .countTooLong ds.length) ∨
        cause = .contraryModes ∧ 'a' ∈ source.toList ∧ 'u' ∈ source.toList)) ∧
    (∀ ds : List Char, (∀ d ∈ ds, isAsciiDigit d = true) → digitLimit < ds.length →
      Stops (some { titlePattern := some (String.ofList (Pattern.counted ds)) })
        (.countTooLong ds.length)) ∧
    (∀ content source, (Manifest.read content source).isAvailable = true ↔
      ∃ c root, content = some c ∧ Content.Holds root c) ∧
    (∀ s v, Version.ofString? s = some v → v.IsShort) ∧
    ∀ s r, Range.parse s = .ok r → ∀ a ∈ r.alternatives, a.IsShort := by
  refine ⟨⟨evaluate_eq_error_iff absence policy facts, ?_⟩, ?_, fun ds => stops_counted,
    Manifest.isAvailable_read_iff, fun s v => Version.ofString?_isShort,
    fun s r => Range.parse_isShort⟩
  · intro hnone
    rcases evaluate_cases absence policy facts with ⟨cause, -, hstops⟩ | hcompletes
    · exact absurd hstops (hnone cause)
    · exact hcompletes
  · rintro cause ⟨p, source, position, hp, hsource, hfault, hforeign⟩
    exact ⟨p, source, hp, hsource, Pattern.ofText_foreign hfault hforeign⟩

end MergeGate.Evaluation
