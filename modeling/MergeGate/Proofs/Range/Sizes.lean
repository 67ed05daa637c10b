import MergeGate.Proofs.Range.Meaning
import MergeGate.Proofs.Text.Numeral

/-
  MergeGate/Proofs/Range/Sizes.lean
  =================================
  **How long the numbers are that versions are compared by.**  A number of a version, or of a
  pre-release identifier, comes from at most 16 digits, wherever a version takes part in a
  comparison (`IsShort`): on the one side stand the versions that texts of a manifest are taken for
  (`ofString?_isShort`), on the other the bounds of ranges (`Range.parse_isShort`).  So no
  comparison has to turn a long row of digits into a number.

  A bound may be the first version above those that are covered, whose number is one higher than
  the one that was written; that is why a number may be the cap itself.
-/

namespace MergeGate

open MergeGate.Text MergeGate.Version

/-! ### Rows of digits -/

/-- The first number with more digits than a row may have. -/
def numberCap : Nat := Nat.pow 10 maxDigits

theorem numeralValue_lt_numberCap {cs : List Char} (h : cs.length ≤ maxDigits) :
    numeralValue cs < numberCap :=
  numeralValue_lt_pow_of_le h

/-! ### Versions of texts -/

/-- Identifiers whose numbers are short. -/
def AreShort (is : List Identifier) : Prop :=
  ∀ i ∈ is, i.isNumber = true → i.length ≤ maxDigits

/-- A version whose numbers come from short rows of digits. -/
structure Version.IsShort (v : Version) : Prop where
  major : v.major ≤ numberCap
  minor : v.minor ≤ numberCap
  patch : v.patch ≤ numberCap
  pre : AreShort v.pre

theorem areShort_nil : AreShort [] := by
  simp [AreShort]

theorem areShort_zero : AreShort [['0']] := by
  intro i hi _
  rw [List.mem_singleton.mp hi]
  decide

theorem Version.isShort_of_lt {v : Version} (hnumbers : ∀ n ∈ v.numbers, n < numberCap) (hpre : AreShort v.pre) :
    v.IsShort := by
  simp only [Version.numbers, List.forall_mem_cons] at hnumbers
  obtain ⟨hmajor, hminor, hpatch, -⟩ := hnumbers
  exact ⟨Nat.le_of_lt hmajor, Nat.le_of_lt hminor, Nat.le_of_lt hpatch, hpre⟩

theorem Version.isOversized_eq_false_iff (v : Version) :
    v.isOversized = false ↔ (∀ n ∈ v.numbers, n < numberCap) ∧ AreShort v.pre := by
  simp only [isOversized, Bool.or_eq_false_iff, decide_eq_false_iff_not, List.any_eq_false,
    Bool.and_eq_true, decide_eq_true_eq, not_and, Nat.not_lt, Nat.not_le, Version.numbers,
    List.forall_mem_cons]
  constructor
  · rintro ⟨⟨⟨hmajor, hminor⟩, hpatch⟩, hpre⟩
    exact ⟨⟨hmajor, hminor, hpatch, List.forall_mem_nil _⟩, hpre⟩
  · rintro ⟨⟨hmajor, hminor, hpatch, -⟩, hpre⟩
    exact ⟨⟨⟨hmajor, hminor⟩, hpatch⟩, hpre⟩

theorem findRow?_length_le {inRow : Bool} {cs row rest : List Char}
    (h : findRow? inRow cs = some (row, rest)) : row.length ≤ maxDigits := by
  induction cs generalizing inRow with
  | nil => cases h
  | cons c cs ih =>
    unfold findRow? at h
    split at h
    · exact ih h
    · split at h
      · exact ih h
      · dsimp only at h
        split at h
        · rename_i hlength
          rw [Option.some.inj h] at hlength
          exact hlength
        · exact ih h

theorem nextRow?_length_le {cs row rest : List Char} (h : nextRow? cs = some (row, rest)) :
    row.length ≤ maxDigits := by
  unfold nextRow? at h
  split at h
  · dsimp only at h
    split at h
    · rename_i hlength
      rw [Option.some.inj h, Bool.and_eq_true, decide_eq_true_eq, decide_eq_true_eq] at hlength
      exact hlength.2
    · cases h
  · cases h

theorem ofRows?_numbers_lt {cs : List Char} {v : Version} (h : ofRows? cs = some v) :
    (∀ n ∈ v.numbers, n < numberCap) ∧ AreShort v.pre := by
  have hzero : 0 < numberCap := by decide
  rw [ofRows?_eq] at h
  split at h
  · cases h
  · rename_i major rest hmajor
    have hmajor' := numeralValue_lt_numberCap (findRow?_length_le hmajor)
    split at h
    · cases h
      simp [Version.numbers, hmajor', hzero, areShort_nil]
    · rename_i minor rest' hminor
      have hminor' := numeralValue_lt_numberCap (nextRow?_length_le hminor)
      split at h
      · cases h
        simp [Version.numbers, hmajor', hminor', hzero, areShort_nil]
      · rename_i patch rest'' hpatch
        have hpatch' := numeralValue_lt_numberCap (nextRow?_length_le hpatch)
        cases h
        simp [Version.numbers, hmajor', hminor', hpatch', areShort_nil]

theorem coerce?_numbers_lt {cs : List Char} {v : Version} (h : coerce? cs = some v) :
    (∀ n ∈ v.numbers, n < numberCap) ∧ AreShort v.pre := by
  rw [coerce?_eq] at h
  split at h
  · rename_i w hread
    split at h
    · exact ofRows?_numbers_lt h
    · rename_i hsize
      cases h
      exact (isOversized_eq_false_iff _).mp ((Bool.not_eq_true _).mp hsize)
  · exact ofRows?_numbers_lt h

/-- Whatever version a text stands for has short numbers. -/
theorem Version.ofString?_isShort {s : String} {v : Version} (h : Version.ofString? s = some v) :
    v.IsShort := by
  obtain ⟨hnumbers, hpre⟩ := coerce?_numbers_lt h
  exact isShort_of_lt hnumbers hpre

/-! ### Versions of bounds -/

/-- A partial version whose numbers come from short rows of digits. -/
structure Partial.IsShort (p : Partial) : Prop where
  numbers : ∀ n ∈ p.numbers, n < numberCap
  pre : AreShort p.floor.pre

theorem Version.lowest_isShort {a b c : Nat} (ha : a ≤ numberCap) (hb : b ≤ numberCap)
    (hc : c ≤ numberCap) : (Version.lowest a b c).IsShort :=
  ⟨ha, hb, hc, areShort_zero⟩

theorem areShort_of_rangePre {is : List Identifier}
    (h : ∀ i ∈ is, isRangePreIdentifier i = true) : AreShort is := by
  intro i hi hnumber
  have hpre := h i hi
  rw [Identifier.isNumber, Bool.and_eq_true, List.all_eq_true] at hnumber
  rw [isRangePreIdentifier, List.dropWhile_eq_nil_iff.mpr hnumber.2] at hpre
  simp only [Bool.and_eq_true, decide_eq_true_eq] at hpre
  exact hpre.2

theorem WritesNumber.lt {t : List Char} {a : Option Nat} (h : WritesNumber t a) :
    ∀ n ∈ a, n < numberCap := by
  cases h with
  | wildcard _ => simp
  | zero =>
    intro n hn
    rw [← Option.some.inj hn]
    decide
  | digits hc hzero hds hlength =>
    intro n hn
    rw [← Option.some.inj hn]
    exact numeralValue_lt_numberCap hlength

theorem WritesMarks.areShort {t : List Char} {pre build : List Identifier}
    (h : WritesMarks t pre build) : AreShort pre := by
  obtain ⟨t₁, t₂, ⟨rfl, -⟩ | ⟨-, hpre, -⟩, -, -⟩ := h
  · exact areShort_nil
  · exact areShort_of_rangePre hpre

theorem Partial.ofNumbers_isShort {pre build : List Identifier} {a b c : Option Nat}
    (ha : ∀ n ∈ a, n < numberCap) (hb : ∀ n ∈ b, n < numberCap)
    (hc : ∀ n ∈ c, n < numberCap) (hpre : AreShort pre) :
    (Partial.ofNumbers pre build a b c).IsShort := by
  cases a with
  | none => exact ⟨by simp [ofNumbers, numbers], areShort_zero⟩
  | some m =>
    have hm := ha m rfl
    cases b with
    | none => exact ⟨by simpa [ofNumbers, numbers] using hm, areShort_zero⟩
    | some n =>
      have hn := hb n rfl
      cases c with
      | none => exact ⟨by simpa [ofNumbers, numbers] using ⟨hm, hn⟩, areShort_zero⟩
      | some q =>
        have hq := hc q rfl
        exact ⟨by simpa [ofNumbers, numbers, Version.numbers] using ⟨hm, hn, hq⟩, hpre⟩

theorem WritesNumbers.isShort {t : List Char} {p : Partial} (h : WritesNumbers t p) :
    p.IsShort := by
  cases h with
  | one ha => exact Partial.ofNumbers_isShort ha.lt (by simp) (by simp) areShort_nil
  | two ha hb => exact Partial.ofNumbers_isShort ha.lt hb.lt (by simp) areShort_nil
  | three ha hb hc hm => exact Partial.ofNumbers_isShort ha.lt hb.lt hc.lt hm.areShort

theorem WritesPartial.isShort {t : List Char} {p : Partial} (h : WritesPartial t p) :
    p.IsShort := by
  rcases h with h | ⟨u, -, h⟩
  · exact h.isShort
  · exact h.isShort

namespace Partial.IsShort

variable {p : Partial} {m n : Nat} {v : Version}

theorem of_major (h : (Partial.major m).IsShort) : m < numberCap :=
  h.numbers m (by simp [Partial.numbers])

theorem of_minor (h : (Partial.minor m n).IsShort) : m < numberCap ∧ n < numberCap := by
  have hnumbers := h.numbers
  simpa [Partial.numbers] using hnumbers

theorem of_full (h : (Partial.full v).IsShort) :
    v.major < numberCap ∧ v.minor < numberCap ∧ v.patch < numberCap := by
  have hnumbers := h.numbers
  simpa [Partial.numbers, Version.numbers] using hnumbers

theorem floor (hp : p.IsShort) : p.floor.IsShort := by
  cases p with
  | any => exact Version.lowest_isShort (Nat.zero_le _) (Nat.zero_le _) (Nat.zero_le _)
  | major m =>
    exact Version.lowest_isShort (Nat.le_of_lt hp.of_major) (Nat.zero_le _) (Nat.zero_le _)
  | minor m n =>
    obtain ⟨hm, hn⟩ := hp.of_minor
    exact Version.lowest_isShort (Nat.le_of_lt hm) (Nat.le_of_lt hn) (Nat.zero_le _)
  | full v =>
    obtain ⟨hmajor, hminor, hpatch⟩ := hp.of_full
    exact ⟨Nat.le_of_lt hmajor, Nat.le_of_lt hminor, Nat.le_of_lt hpatch, hp.pre⟩

end Partial.IsShort

/-- The versions that bounds of a partial version may end at, or begin at if they leave it out. -/
def Partial.limits : Partial → List Version
  | .any => []
  | .major m => [.lowest (m + 1) 0 0]
  | .minor m n => [.lowest m (n + 1) 0, .lowest (m + 1) 0 0, .lowest 0 (n + 1) 0]
  | .full v =>
    [.lowest v.major (v.minor + 1) 0, .lowest (v.major + 1) 0 0, .lowest 0 (v.minor + 1) 0,
      .lowest 0 0 (v.patch + 1)]

theorem Partial.version_of_mem_bounds {p : Partial} {s : Sign} {b : Bound} (h : b ∈ p.bounds s) :
    b.version = p.floor ∨ b.version ∈ p.limits := by
  cases p with
  | any =>
    left
    cases s <;> simp_all [Partial.bounds, exactBounds, belowBounds, atMostBounds, aboveBounds,
      atLeastBounds, tildeBounds, caretBounds, ceiling?, caretCeiling?, nothing, floor]
  | major m =>
    cases s <;> simp [Partial.bounds, exactBounds, belowBounds, atMostBounds, aboveBounds,
      atLeastBounds, tildeBounds, caretBounds, ceiling?, caretCeiling?, limits] at h ⊢ <;> grind
  | minor m n =>
    cases s <;> simp [Partial.bounds, exactBounds, belowBounds, atMostBounds, aboveBounds,
      atLeastBounds, tildeBounds, caretBounds, ceiling?, caretCeiling?, limits] at h ⊢ <;> grind
  | full v =>
    cases s <;> simp [Partial.bounds, exactBounds, belowBounds, atMostBounds, aboveBounds,
      atLeastBounds, tildeBounds, caretBounds, floor, caretCeiling?, limits] at h ⊢ <;> grind

namespace Partial.IsShort

variable {p : Partial}

theorem limits (hp : p.IsShort) : ∀ v ∈ p.limits, v.IsShort := by
  have hzero : 0 ≤ numberCap := Nat.zero_le _
  cases p with
  | any => simp [Partial.limits]
  | major m =>
    rw [Partial.limits, List.forall_mem_singleton]
    exact Version.lowest_isShort hp.of_major hzero hzero
  | minor m n =>
    obtain ⟨hm, hn⟩ := hp.of_minor
    simp only [Partial.limits, List.forall_mem_cons]
    refine ⟨?_, ?_, ?_, List.forall_mem_nil _⟩
    · exact Version.lowest_isShort (Nat.le_of_lt hm) hn hzero
    · exact Version.lowest_isShort hm hzero hzero
    · exact Version.lowest_isShort hzero hn hzero
  | full v =>
    obtain ⟨hmajor, hminor, hpatch⟩ := hp.of_full
    simp only [Partial.limits, List.forall_mem_cons]
    refine ⟨?_, ?_, ?_, ?_, List.forall_mem_nil _⟩
    · exact Version.lowest_isShort (Nat.le_of_lt hmajor) hminor hzero
    · exact Version.lowest_isShort hmajor hzero hzero
    · exact Version.lowest_isShort hzero hminor hzero
    · exact Version.lowest_isShort hzero hzero hpatch

theorem bounds (hp : p.IsShort) (s : Sign) : ∀ b ∈ p.bounds s, b.version.IsShort := by
  intro b hb
  rcases Partial.version_of_mem_bounds hb with hfloor | hlimit
  · rw [hfloor]
    exact hp.floor
  · exact hp.limits _ hlimit

end Partial.IsShort

/-! ### Versions of ranges -/

theorem WritesEnd.exists_partial {t : List Char} {p : Partial} (h : WritesEnd t p) :
    ∃ u, WritesPartial u p := by
  rcases h with h | ⟨u, -, h⟩
  · exact ⟨t, h⟩
  · exact ⟨u, h⟩

theorem WritesSimples.exists_partial {t : List Char} {ss : List (Sign × Partial)}
    (h : WritesSimples t ss) : ∀ s ∈ ss, ∃ u, WritesPartial u s.2 := by
  induction h with
  | one hs =>
    obtain ⟨o, g, u, -, -, -, -, hp⟩ := hs
    simpa using ⟨u, hp⟩
  | cons hs hg hne hss ih =>
    obtain ⟨o, g, u, -, -, -, -, hp⟩ := hs
    rw [List.forall_mem_cons]
    exact ⟨⟨u, hp⟩, ih⟩

/-- Every bound of a clause comes from a partial version that is written in it. -/
theorem WritesClause.exists_partial {t : List Char} {c : Clause} (h : WritesClause t c) {b : Bound}
    (hb : b ∈ c.bounds) : ∃ u p s, WritesPartial u p ∧ b ∈ p.bounds s := by
  cases h with
  | empty _ => cases hb
  | @simples _ _ _ ss _ _ hss =>
    obtain ⟨s, hs, hb⟩ := List.mem_flatMap.mp hb
    obtain ⟨u, hu⟩ := hss.exists_partial s hs
    exact ⟨u, s.2, s.1, hu, hb⟩
  | between _ hlow _ _ _ _ hhigh _ =>
    rcases List.mem_append.mp hb with hb | hb
    · obtain ⟨u, hu⟩ := hlow.exists_partial
      exact ⟨u, _, .atLeast, hu, hb⟩
    · obtain ⟨u, hu⟩ := hhigh.exists_partial
      exact ⟨u, _, .atMost, hu, hb⟩

theorem exists_writesClause_of_forall₂ {ps : List (List Char)} {cs : List Clause}
    (h : List.Forall₂ WritesClause ps cs) : ∀ c ∈ cs, ∃ t, WritesClause t c := by
  induction h with
  | nil => simp
  | @cons p c ps cs hc _ ih =>
    rw [List.forall_mem_cons]
    exact ⟨⟨p, hc⟩, ih⟩

theorem Range.exists_partial {s : String} {r : Range} (h : Range.parse s = .ok r)
    {a : Alternative} (ha : a ∈ r.alternatives) {b : Bound} (hb : b ∈ a) :
    ∃ u p sign, WritesPartial u p ∧ b ∈ p.bounds sign := by
  obtain ⟨cs, ⟨ps, -, -, hclauses⟩, rfl⟩ := (Range.parse_eq_ok_iff s r).mp h
  obtain ⟨c, hc, rfl⟩ := List.mem_map.mp ha
  obtain ⟨t, ht⟩ := exists_writesClause_of_forall₂ hclauses c hc
  exact ht.exists_partial hb

/-- Bounds whose versions have short numbers. -/
def Alternative.IsShort (a : Alternative) : Prop := ∀ b ∈ a, b.version.IsShort

/-- Every bound of a range that compiles has short numbers. -/
theorem Range.parse_isShort {s : String} {r : Range} (h : Range.parse s = .ok r) :
    ∀ a ∈ r.alternatives, a.IsShort := by
  intro a ha b hb
  obtain ⟨u, p, sign, hu, hb⟩ := Range.exists_partial h ha hb
  exact hu.isShort.bounds sign b hb

end MergeGate
