import Mathlib.Data.List.Forall2
import Mathlib.Data.List.ProdSigma
import MergeGate.Proofs.Evaluation.Telling

/-
  MergeGate/Proofs/Denylist/Matches.lean
  ======================================
  **What an evaluation of deny rules reports.**  `Bans` says of a rule as it is written whether it
  bans a record; it asks `satisfies` afresh for each record and knows nothing of compiled ranges.
  `rejection?` says of a written rule whether its range is refused.  From these two follows what
  the whole evaluation has to report (`reported`):

    * one violation for each refused rule, in the order of the rules;
    * one violation if there is no list of records;
    * one violation for all banned pairs, if no rule is refused and there are records.

  The pairs are given by their places (`Lists`): the place of the rule and that of the record.  The
  list of places is strictly increasing and holds a place exactly when the rule there bans the
  record there, so no pair is lost and none comes twice.  The main statement is
  `evaluate_lists_matches`, which says what each violation tells.
-/

namespace MergeGate.Denylist

open MergeGate.Text

/-! ### Written rules -/

/-- Whether a deny rule as it is written bans a record: the names agree, and if the rule has a
    range, the version of the record lies in it. -/
def Bans (raw : String) (r : Record) : Prop :=
  r.name = (DenyRule.parse raw).name ∧
    ∀ s ∈ (DenyRule.parse raw).range?, satisfies r.version (.text s) = .ok true

instance (raw : String) (r : Record) : Decidable (Bans raw r) :=
  inferInstanceAs (Decidable (_ ∧ ∀ s ∈ (DenyRule.parse raw).range?, _))

/-- Whether a written rule has a range that cannot be read. -/
def isRefused (raw : String) : Bool :=
  (DenyRule.parse raw).range?.any fun s => !Range.isValid (.text s)

/-- The violation of a written rule whose range cannot be read. -/
def rejection? (raw : String) : Option Violation :=
  match (DenyRule.parse raw).range? with
  | none => none
  | some s =>
    match Range.parse s with
    | .ok _ => none
    | .error e => some ((DenyRule.parse raw).invalidViolation e)

/-- What an evaluation has to report when `ms` are the banned pairs. -/
def reported (absence : Severity) (raws : List String) (m : Manifest) (ms : List Match) :
    List Violation :=
  if raws = [] then []
  else
    raws.filterMap rejection?
      ++ (if m.isAvailable then [] else [m.absentViolation absence])
      ++ (if (∀ raw ∈ raws, ¬ isRefused raw) ∧ m.isAvailable ∧ ms ≠ []
          then [foundViolation ms] else [])

/-- `ms` are the banned pairs of the rules and the records, and `places` is where each of them
    stands: the place of its rule and the place of its record. -/
structure Lists (raws : List String) (rs : List Record) (places : List (Nat × Nat))
    (ms : List Match) : Prop where
  /-- Rule by rule, and for each rule in the order of the records; no place comes twice. -/
  ordered : places.Pairwise fun p q => p.1 < q.1 ∨ p.1 = q.1 ∧ p.2 < q.2
  /-- A place is listed exactly when the rule there bans the record there. -/
  complete : ∀ i j, (i, j) ∈ places ↔
    ∃ raw r, raws[i]? = some raw ∧ rs[j]? = some r ∧ Bans raw r
  /-- Each match shows the rule as it is written at its place, and the record there. -/
  shown : List.Forall₂ (fun p m => raws[p.1]? = some m.rule.raw ∧
    m.rule = DenyRule.parse m.rule.raw ∧ rs[p.2]? = some m.record) places ms

theorem Lists.eq_nil_of_nil {rs : List Record} {places : List (Nat × Nat)} {ms : List Match}
    (h : Lists [] rs places ms) : ms = [] := by
  have hplaces : places = [] := by
    rw [List.eq_nil_iff_forall_not_mem]
    rintro ⟨i, j⟩ hplace
    obtain ⟨raw, r, hraw, -⟩ := (h.complete i j).mp hplace
    cases hraw
  have hshown := h.shown
  rw [hplaces] at hshown
  exact List.forall₂_nil_left_iff.mp hshown

/-! ### Compiled rules and written ones -/

/-- A rule has a violation of its own exactly when it is refused, and is told in it. -/
theorem rejection?_cases (raw : String) :
    (isRefused raw = false ∧ rejection? raw = none) ∨
    (isRefused raw = true ∧ ∃ v, rejection? raw = some v ∧ v.TellsRefused raw) := by
  unfold isRefused rejection?
  cases hrange : (DenyRule.parse raw).range? with
  | none => exact .inl ⟨rfl, rfl⟩
  | some s =>
    cases hr : Range.parse s with
    | ok range =>
      exact .inl ⟨by simp [Range.isValid, Range.ofJson, hr, Except.toBool], by simp [hr]⟩
    | error e =>
      exact .inr ⟨by simp [Range.isValid, Range.ofJson, hr, Except.toBool], _, by simp [hr],
        Violation.tellsRefused_invalidViolation hrange hr⟩

theorem rejection?_eq_some {raw : String} {v : Violation} (h : rejection? raw = some v) :
    isRefused raw = true ∧ v.TellsRefused raw := by
  rcases rejection?_cases raw with ⟨-, hnone⟩ | ⟨hrefused, w, hsome, htells⟩
  · cases hnone.symm.trans h
  · cases hsome.symm.trans h
    exact ⟨hrefused, htells⟩

/-- The refused rules have one violation each, in their order, in which they are told. -/
theorem forall₂_rejections (raws : List String) :
    List.Forall₂ (fun raw v => v.TellsRefused raw) (raws.filter isRefused)
      (raws.filterMap rejection?) := by
  induction raws with
  | nil => exact .nil
  | cons raw raws ih =>
    rcases rejection?_cases raw with ⟨hsound, hnone⟩ | ⟨hrefused, v, hsome, htells⟩
    · rw [List.filterMap_cons, hnone, List.filter_cons, hsound]
      exact ih
    · rw [List.filterMap_cons, hsome, List.filter_cons, hrefused]
      exact .cons htells ih

theorem filterMap_rejection?_eq_nil_iff (raws : List String) :
    raws.filterMap rejection? = [] ↔ ∀ raw ∈ raws, ¬ isRefused raw := by
  rw [List.filterMap_eq_nil_iff]
  apply forall₂_congr
  intro raw _
  rcases rejection?_cases raw with ⟨hsound, hnone⟩ | ⟨hrefused, v, hsome, -⟩
  · simp [hsound, hnone]
  · simp [hrefused, hsome]

/-- A rule without a range compiles, and bans every version of its name. -/
theorem bans_unranged {raw : String} (hs : (DenyRule.parse raw).range? = none) (r : Record) :
    CompiledRule.bans ⟨DenyRule.parse raw, none⟩ r = true ↔ Bans raw r := by
  simp [CompiledRule.bans, Bans, hs]

/-- Compiling a range once and asking `satisfies` for each record come to the same. -/
theorem bans_ranged {raw s : String} {range : Range} (hs : (DenyRule.parse raw).range? = some s)
    (hr : Range.parse s = .ok range) (r : Record) :
    CompiledRule.bans ⟨DenyRule.parse raw, some range⟩ r = true ↔ Bans raw r := by
  cases hv : Version.ofString? r.version with
  | none => simp [CompiledRule.bans, Bans, hs, satisfies, hv]
  | some v =>
    have hsat : satisfies r.version (.text s) = .ok (range.accepts v) := by
      simp [satisfies, hv, Range.ofJson, hr, Except.map]
    simp [CompiledRule.bans, Bans, hs, hv, hsat]

/-- A written rule either compiles to a rule that bans what it bans, or is refused. -/
theorem compile_cases (raw : String) :
    (rejection? raw = none ∧ ∃ c, (DenyRule.parse raw).compile = .ok c ∧
      c.rule = DenyRule.parse raw ∧ ∀ r, c.bans r = true ↔ Bans raw r) ∨
    ∃ e, (DenyRule.parse raw).compile = .error e ∧
      rejection? raw = some ((DenyRule.parse raw).invalidViolation e) := by
  unfold rejection? DenyRule.compile
  cases hs : (DenyRule.parse raw).range? with
  | none => exact .inl ⟨rfl, _, rfl, rfl, bans_unranged hs⟩
  | some s =>
    cases hr : Range.parse s with
    | ok range =>
      exact .inl ⟨by simp [hr], ⟨DenyRule.parse raw, some range⟩, by simp [hr], rfl,
        bans_ranged hs hr⟩
    | error e => exact .inr ⟨e, by simp [hr], by simp [hr]⟩

theorem invalid_eq_filterMap (raws : List String) :
    invalid (raws.map DenyRule.parse) = raws.filterMap rejection? := by
  unfold invalid
  rw [List.filterMap_map]
  apply List.filterMap_congr
  intro raw _
  rcases compile_cases raw with ⟨hnone, c, hc, -⟩ | ⟨e, he, hsome⟩
  · simp [hc, hnone]
  · simp [he, hsome]

/-! ### Places -/

/-- The banned pairs with their places; rules are numbered from `first` on. -/
def bannedPairs (first : Nat) (raws : List String) (rs : List Record) :
    List ((String × Nat) × (Record × Nat)) :=
  (raws.zipIdx first ×ˢ rs.zipIdx).filter fun p => Bans p.1.1 p.2.1

theorem bannedPairs_cons (first : Nat) (raw : String) (raws : List String) (rs : List Record) :
    bannedPairs first (raw :: raws) rs =
      (rs.zipIdx.filter fun y => Bans raw y.1).map (Prod.mk (raw, first))
        ++ bannedPairs (first + 1) raws rs := by
  simp only [bannedPairs, List.zipIdx_cons, List.product_cons, List.filter_append, List.filter_map,
    Function.comp_def]

theorem mem_bannedPairs {raws : List String} {rs : List Record}
    {p : (String × Nat) × (Record × Nat)} :
    p ∈ bannedPairs 0 raws rs ↔
      raws[p.1.2]? = some p.1.1 ∧ rs[p.2.2]? = some p.2.1 ∧ Bans p.1.1 p.2.1 := by
  obtain ⟨x, y⟩ := p
  simp only [bannedPairs, List.mem_filter, List.mem_product, List.mem_zipIdx_iff_getElem?,
    decide_eq_true_eq, and_assoc]

/-- If every rule compiles, the matches of the compiled rules are the banned pairs. -/
theorem found_compiled (rs : List Record) {raws : List String}
    (h : ∀ raw ∈ raws, rejection? raw = none) (first : Nat) :
    found (compiled (raws.map DenyRule.parse)) rs =
      (bannedPairs first raws rs).map fun p => ⟨DenyRule.parse p.1.1, p.2.1⟩ := by
  induction raws generalizing first with
  | nil => rfl
  | cons raw raws ih =>
    have htail := ih (fun raw' hraw' => h raw' (by simp [hraw'])) (first + 1)
    rcases compile_cases raw with ⟨-, c, hc, hrule, hbans⟩ | ⟨e, -, hsome⟩
    · have hcompiled : compiled ((raw :: raws).map DenyRule.parse) =
          c :: compiled (raws.map DenyRule.parse) := by
        simp [compiled, hc, Except.toOption]
      have hbanned : c.bans = fun r => decide (Bans raw r) := by
        funext r
        rw [Bool.eq_iff_iff, hbans r, decide_eq_true_iff]
      -- the records of the first rule, with and without their places
      have hfiltered : rs.filter c.bans =
          (rs.zipIdx.filter fun y => Bans raw y.1).map Prod.fst := by
        conv_lhs => rw [← List.zipIdx_map_fst 0 rs]
        rw [List.filter_map, hbanned]
        rfl
      rw [hcompiled, bannedPairs_cons, List.map_append, ← htail]
      simp only [found, List.flatMap_cons, CompiledRule.found, hfiltered, hrule, List.map_map,
        Function.comp_def]
    · rw [h raw (by simp)] at hsome
      cases hsome

theorem pairwise_snd_zipIdx {α : Type} (first : Nat) (l : List α) :
    (l.zipIdx first).Pairwise fun a b => a.2 < b.2 := by
  rw [← List.pairwise_map (f := Prod.snd) (R := (· < ·)), List.zipIdx_map_snd]
  exact List.pairwise_lt_range' 1

/-- The banned pairs are listed by their places. -/
theorem lists_bannedPairs (raws : List String) (rs : List Record) :
    Lists raws rs ((bannedPairs 0 raws rs).map fun p => (p.1.2, p.2.2))
      ((bannedPairs 0 raws rs).map fun p => ⟨DenyRule.parse p.1.1, p.2.1⟩) where
  ordered := by
    rw [List.pairwise_map]
    apply List.Pairwise.filter
    simp only [SProd.sprod, List.product, List.pairwise_flatMap]
    constructor
    · intro x _
      rw [List.pairwise_map]
      exact (pairwise_snd_zipIdx 0 rs).imp fun hlt => .inr ⟨rfl, hlt⟩
    · refine (pairwise_snd_zipIdx 0 raws).imp ?_
      intro x x' hlt p hp q hq
      obtain ⟨y, -, rfl⟩ := List.mem_map.mp hp
      obtain ⟨y', -, rfl⟩ := List.mem_map.mp hq
      exact .inl hlt
  complete := by
    intro i j
    constructor
    · intro hplace
      obtain ⟨p, hp, hpij⟩ := List.mem_map.mp hplace
      cases hpij
      obtain ⟨hraw, hr, hbans⟩ := mem_bannedPairs.mp hp
      exact ⟨p.1.1, p.2.1, hraw, hr, hbans⟩
    · rintro ⟨raw, r, hraw, hr, hbans⟩
      exact List.mem_map.mpr ⟨((raw, i), (r, j)), mem_bannedPairs.mpr ⟨hraw, hr, hbans⟩, rfl⟩
  shown := by
    rw [List.forall₂_map_left_iff, List.forall₂_map_right_iff, List.forall₂_same]
    intro p hp
    obtain ⟨hraw, hr, -⟩ := mem_bannedPairs.mp hp
    dsimp only
    rw [DenyRule.parse_raw]
    exact ⟨hraw, rfl, hr⟩

/-! ### The whole evaluation -/

/-- An evaluation reports what it has to for the banned pairs. -/
theorem violations_evaluate (absence : Severity) (raws : List String) (m : Manifest) :
    (evaluate absence raws m).violations = reported absence raws m
      ((bannedPairs 0 raws m.records).map fun p => ⟨DenyRule.parse p.1.1, p.2.1⟩) := by
  by_cases hempty : raws = []
  · simp [evaluate, reported, hempty]
  unfold evaluate reported
  rw [if_neg hempty, if_neg (by simpa using hempty)]
  dsimp only
  rw [invalid_eq_filterMap]
  by_cases hall : ∀ raw ∈ raws, ¬ isRefused raw
  · have hnone := (filterMap_rejection?_eq_nil_iff raws).mpr hall
    rw [hnone, found_compiled m.records (List.filterMap_eq_nil_iff.mp hnone) 0]
    cases hm : m.isAvailable with
    | false => simp
    | true =>
      cases bannedPairs 0 raws m.records with
      | nil => simp
      | cons p ps => simpa using hall
  · have hsome := mt (filterMap_rejection?_eq_nil_iff raws).mp hall
    have hfaulty : (raws.filterMap rejection?).isEmpty = false := by simpa using hsome
    simp only [hfaulty, Bool.false_and, Bool.false_eq_true, if_false, hall, false_and,
      List.append_nil]

theorem bannedPairs_ne_nil_iff (raws : List String) (rs : List Record) :
    bannedPairs 0 raws rs ≠ [] ↔ ∃ raw ∈ raws, ∃ r ∈ rs, Bans raw r := by
  rw [← List.isEmpty_eq_false_iff, List.isEmpty_eq_false_iff_exists_mem]
  constructor
  · rintro ⟨p, hp⟩
    obtain ⟨hraw, hr, hbans⟩ := mem_bannedPairs.mp hp
    exact ⟨p.1.1, List.mem_of_getElem? hraw, p.2.1, List.mem_of_getElem? hr, hbans⟩
  · rintro ⟨raw, hraw, r, hr, hbans⟩
    obtain ⟨i, hi⟩ := List.getElem?_of_mem hraw
    obtain ⟨j, hj⟩ := List.getElem?_of_mem hr
    exact ⟨((raw, i), (r, j)), mem_bannedPairs.mpr ⟨hi, hj, hbans⟩⟩

/-- A violation is of a refused rule, of a manifest without records, or of all banned pairs. -/
theorem mem_violations_evaluate_iff {absence : Severity} {raws : List String} {m : Manifest}
    {v : Violation} :
    v ∈ (evaluate absence raws m).violations ↔
      (∃ raw ∈ raws, rejection? raw = some v) ∨
      (raws ≠ [] ∧ m.isAvailable = false ∧ v = m.absentViolation absence) ∨
      ((∀ raw ∈ raws, ¬ isRefused raw) ∧ m.isAvailable ∧
        (∃ raw ∈ raws, ∃ r ∈ m.records, Bans raw r) ∧
        v = foundViolation ((bannedPairs 0 raws m.records).map fun p =>
          ⟨DenyRule.parse p.1.1, p.2.1⟩)) := by
  rw [violations_evaluate, reported]
  by_cases hempty : raws = []
  · simp [hempty]
  · rw [if_neg hempty, List.mem_append, List.mem_append, List.mem_filterMap, or_assoc,
      List.mem_ite_nil_left, List.mem_ite_nil_right, List.mem_singleton, List.mem_singleton,
      ← bannedPairs_ne_nil_iff, Bool.not_eq_true, ne_eq, List.map_eq_nil_iff, and_assoc, and_assoc]
    simp only [ne_eq, hempty, not_false_eq_true, true_and]

/-- Each violation that has to be reported tells what it is for. -/
theorem tells_reported (absence : Severity) (raws : List String) (m : Manifest)
    {places : List (Nat × Nat)} {ms : List Match} (hlists : Lists raws m.records places ms) :
    ∃ refused absent banned, reported absence raws m ms = refused ++ absent ++ banned ∧
      List.Forall₂ (fun raw v => v.TellsRefused raw) (raws.filter isRefused) refused ∧
      OneIf (raws ≠ [] ∧ m.isAvailable = false) (Violation.TellsAbsent absence m) absent ∧
      OneIf ((∀ raw ∈ raws, isRefused raw = false) ∧ m.isAvailable = true ∧ ms ≠ [])
        (Violation.TellsBanned ms) banned := by
  by_cases hempty : raws = []
  · subst hempty
    have hnone : ms = [] := hlists.eq_nil_of_nil
    refine ⟨[], [], [], by simp [reported], .nil, .none ?_, .none ?_⟩
    · exact fun h => h.1 rfl
    · exact fun h => h.2.2 hnone
  · refine ⟨_, _, _, by rw [reported, if_neg hempty], forall₂_rejections raws, ?_, ?_⟩
    · simp only [ne_eq, hempty, not_false_eq_true, true_and]
      cases m.isAvailable with
      | true => exact .none (by simp)
      | false => exact .one rfl (Violation.tellsAbsent_absentViolation absence m)
    · simp only [Bool.not_eq_true]
      exact oneIf_ite fun _ => Violation.tellsBanned_foundViolation ms

/-- **An evaluation of deny rules reports what it has to.**  There is a list of the banned pairs,
    each at its place and none lost or listed twice.  What is reported is, in this order:

    1. one violation for each refused rule, in the order of the rules, which tells the rule;
    2. one violation if there is no list of records;
    3. one violation if no rule is refused, there are records and some pair is banned, which tells
       these pairs and no others.

    Without rules nothing is reported. -/
theorem evaluate_lists_matches (absence : Severity) (raws : List String) (m : Manifest) :
    (raws = [] → (evaluate absence raws m).violations = []) ∧
    ∃ places ms refused absent banned, Lists raws m.records places ms ∧
      (evaluate absence raws m).violations = refused ++ absent ++ banned ∧
      List.Forall₂ (fun raw v => v.TellsRefused raw) (raws.filter isRefused) refused ∧
      OneIf (raws ≠ [] ∧ m.isAvailable = false) (Violation.TellsAbsent absence m) absent ∧
      OneIf ((∀ raw ∈ raws, isRefused raw = false) ∧ m.isAvailable = true ∧ ms ≠ [])
        (Violation.TellsBanned ms) banned := by
  constructor
  · rintro rfl
    rfl
  · obtain ⟨refused, absent, banned, hreported, htells⟩ := tells_reported absence raws m
      (lists_bannedPairs raws m.records)
    exact ⟨_, _, refused, absent, banned, lists_bannedPairs raws m.records,
      (violations_evaluate absence raws m).trans hreported, htells⟩

end MergeGate.Denylist
