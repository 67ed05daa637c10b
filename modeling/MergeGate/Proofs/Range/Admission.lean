import Mathlib.Data.List.Basic
import MergeGate.Proofs.Version.Lowest

/-
  MergeGate/Proofs/Range/Admission.lean
  =====================================
  **What signs and partial versions admit.**  A partial version has up to three numbers.  With all
  three it is a version, and others compare with it by precedence.  With fewer it stands for a
  whole run of versions, pre-releases included, and others compare with it by as many of their
  first numbers (`Partial.order`).

  From this order alone follows what a sign before a partial version admits (`Sign.Admits`) and
  what a clause admits (`Clause.Admits`); neither knows of floors, ceilings or bounds.  The main
  statement is `Clause.accepts_bounds`: the bounds of a clause accept exactly what it admits.
-/

namespace MergeGate

namespace Partial

/-- The numbers that a partial version has. -/
def numbers : Partial → List Nat
  | .any => []
  | .major m => [m]
  | .minor m n => [m, n]
  | .full v => v.numbers

/-- How a version stands to a partial one: by precedence if it is full, and else by as many of the
    first numbers as it has, the first two that differ deciding. -/
def order (p : Partial) (v : Version) : Ordering :=
  match p with
  | .full w => v.compare w
  | p => List.compareLex Ord.compare (v.numbers.take p.numbers.length) p.numbers

/-- A version agrees with a partial one on the first `k` of the numbers that this one has. -/
def Agrees (p : Partial) (k : Nat) (v : Version) : Prop := v.numbers.take k = p.numbers.take k

/-- How many numbers a caret holds fixed: those up to the leftmost one that is not zero, and all of
    them if all are zero. -/
def caretLength (p : Partial) : Nat :=
  min ((p.numbers.takeWhile (· = 0)).length + 1) p.numbers.length

end Partial

/-- What a sign before a partial version admits. -/
def Sign.Admits (p : Partial) (v : Version) : Sign → Prop
  | .exact => p.order v = .eq
  | .below => p.order v = .lt
  | .atMost => p.order v ≠ .gt
  | .above => p.order v = .gt
  | .atLeast => p.order v ≠ .lt
  | .tilde => p.order v ≠ .lt ∧ p.Agrees (min p.numbers.length 2) v
  | .caret => p.order v ≠ .lt ∧ p.Agrees p.caretLength v

/-- What a clause admits: what lies between its ends, or what all its signs admit. -/
def Clause.Admits (v : Version) : Clause → Prop
  | .between low high => low.order v ≠ .lt ∧ high.order v ≠ .gt
  | .all simples => ∀ s ∈ simples, s.1.Admits s.2 v

/-! ### Bounds -/

theorem Alternative.accepts_cons (b : Bound) (a : Alternative) (v : Version) :
    Alternative.accepts (b :: a) v = true ↔
      b.accepts v = true ∧ Alternative.accepts a v = true := by
  simp [Alternative.accepts]

theorem Bound.accepts_lt_lowest (v : Version) (a b c : Nat) :
    Bound.accepts ⟨.lt, .lowest a b c⟩ v = true ↔ v.Before a b c := by
  rw [← Version.compare_lowest_eq_lt_iff]
  simp [Bound.accepts, Relation.holds]

theorem Bound.accepts_ge_lowest (v : Version) (a b c : Nat) :
    Bound.accepts ⟨.ge, .lowest a b c⟩ v = true ↔ ¬ v.Before a b c := by
  rw [← Version.compare_lowest_eq_lt_iff]
  simp [Bound.accepts, Relation.holds]

namespace Partial

/-! ### The order by the first numbers -/

theorem order_any (v : Version) : Partial.any.order v = .eq := rfl

theorem order_full (w v : Version) : (Partial.full w).order v = v.compare w := rfl

theorem order_major (m : Nat) (v : Version) :
    (Partial.major m).order v = Ord.compare v.major m := by
  simp only [order, numbers, Version.numbers, List.length_cons, List.length_nil, Nat.zero_add,
    List.take_succ_cons, List.take_zero, List.compareLex_cons_cons, List.compareLex_nil_nil,
    Ordering.then_eq]

theorem order_minor (m n : Nat) (v : Version) :
    (Partial.minor m n).order v = (Ord.compare v.major m).then (Ord.compare v.minor n) := by
  simp only [order, numbers, Version.numbers, List.length_cons, List.length_nil, Nat.zero_add,
    Nat.reduceAdd, List.take_succ_cons, List.take_zero, List.compareLex_cons_cons,
    List.compareLex_nil_nil, Ordering.then_eq]

/-- A version that is not below a full one has no numbers that come before. -/
theorem not_before_of_order_full {w v : Version} (h : (Partial.full w).order v ≠ .lt) :
    ¬ v.Before w.major w.minor w.patch :=
  fun hbefore => h ((Version.compare_eq_lt_iff v w).mpr (.inl hbefore))

/-! ### One sign after the other -/

theorem accepts_exactBounds (p : Partial) (v : Version) :
    Alternative.accepts p.exactBounds v = true ↔ Sign.exact.Admits p v := by
  cases p with
  | any => simp [exactBounds, ceiling?, Alternative.accepts, Sign.Admits, order_any]
  | full w =>
    simp [exactBounds, Alternative.accepts, Bound.accepts, Relation.holds, Sign.Admits, order_full]
  | major m =>
    simp only [exactBounds, ceiling?, floor, Alternative.accepts_cons, Bound.accepts_ge_lowest,
      Bound.accepts_lt_lowest, Alternative.accepts_nil, and_true, Sign.Admits, order_major,
      Nat.compare_eq_eq, Version.Before]
    omega
  | minor m n =>
    simp only [exactBounds, ceiling?, floor, Alternative.accepts_cons, Bound.accepts_ge_lowest,
      Bound.accepts_lt_lowest, Alternative.accepts_nil, and_true, Sign.Admits, order_minor,
      Ordering.then_eq_eq, Nat.compare_eq_eq, Version.Before]
    omega

theorem not_accepts_nothing (v : Version) : ¬ Alternative.accepts nothing v = true := by
  simp only [nothing, Alternative.accepts_cons, Bound.accepts_lt_lowest, Version.Before]
  omega

theorem accepts_belowBounds (p : Partial) (v : Version) :
    Alternative.accepts p.belowBounds v = true ↔ Sign.below.Admits p v := by
  cases p with
  | any => simp [belowBounds, not_accepts_nothing, Sign.Admits, order_any]
  | full w =>
    simp [belowBounds, floor, Alternative.accepts, Bound.accepts, Relation.holds, Sign.Admits,
      order_full]
  | major m =>
    simp only [belowBounds, floor, Alternative.accepts_cons, Bound.accepts_lt_lowest,
      Alternative.accepts_nil, and_true, Sign.Admits, order_major, Nat.compare_eq_lt,
      Version.Before]
    omega
  | minor m n =>
    simp only [belowBounds, floor, Alternative.accepts_cons, Bound.accepts_lt_lowest,
      Alternative.accepts_nil, and_true, Sign.Admits, order_minor, Ordering.then_eq_lt,
      Nat.compare_eq_lt, Nat.compare_eq_eq, Version.Before]
    omega

theorem accepts_atMostBounds (p : Partial) (v : Version) :
    Alternative.accepts p.atMostBounds v = true ↔ Sign.atMost.Admits p v := by
  cases p with
  | any => simp [atMostBounds, ceiling?, Alternative.accepts, Sign.Admits, order_any]
  | full w =>
    simp [atMostBounds, Alternative.accepts, Bound.accepts, Relation.holds, Sign.Admits, order_full]
  | major m =>
    simp only [atMostBounds, ceiling?, Alternative.accepts_cons, Bound.accepts_lt_lowest,
      Alternative.accepts_nil, and_true, Sign.Admits, order_major, ne_eq, Nat.compare_eq_gt,
      Version.Before]
    omega
  | minor m n =>
    simp only [atMostBounds, ceiling?, Alternative.accepts_cons, Bound.accepts_lt_lowest,
      Alternative.accepts_nil, and_true, Sign.Admits, order_minor, ne_eq, Ordering.then_eq_gt,
      Nat.compare_eq_gt, Nat.compare_eq_eq, Version.Before]
    omega

theorem accepts_aboveBounds (p : Partial) (v : Version) :
    Alternative.accepts p.aboveBounds v = true ↔ Sign.above.Admits p v := by
  cases p with
  | any => simp [aboveBounds, not_accepts_nothing, Sign.Admits, order_any]
  | full w =>
    simp [aboveBounds, Alternative.accepts, Bound.accepts, Relation.holds, Sign.Admits, order_full]
  | major m =>
    simp only [aboveBounds, ceiling?, Alternative.accepts_cons, Bound.accepts_ge_lowest,
      Alternative.accepts_nil, and_true, Sign.Admits, order_major, Nat.compare_eq_gt,
      Version.Before]
    omega
  | minor m n =>
    simp only [aboveBounds, ceiling?, Alternative.accepts_cons, Bound.accepts_ge_lowest,
      Alternative.accepts_nil, and_true, Sign.Admits, order_minor, Ordering.then_eq_gt,
      Nat.compare_eq_gt, Nat.compare_eq_eq, Version.Before]
    omega

theorem accepts_atLeastBounds (p : Partial) (v : Version) :
    Alternative.accepts p.atLeastBounds v = true ↔ Sign.atLeast.Admits p v := by
  cases p with
  | any => simp [atLeastBounds, Alternative.accepts, Sign.Admits, order_any]
  | full w =>
    simp [atLeastBounds, floor, Alternative.accepts, Bound.accepts, Relation.holds, Sign.Admits,
      order_full]
  | major m =>
    simp only [atLeastBounds, floor, Alternative.accepts_cons, Bound.accepts_ge_lowest,
      Alternative.accepts_nil, and_true, Sign.Admits, order_major, ne_eq, Nat.compare_eq_lt,
      Version.Before]
    omega
  | minor m n =>
    simp only [atLeastBounds, floor, Alternative.accepts_cons, Bound.accepts_ge_lowest,
      Alternative.accepts_nil, and_true, Sign.Admits, order_minor, ne_eq, Ordering.then_eq_lt,
      Nat.compare_eq_lt, Nat.compare_eq_eq, Version.Before]
    omega

/-! ### Tilde and caret -/

theorem agrees_one (p : Partial) {m : Nat} {rest : List Nat} (h : p.numbers = m :: rest)
    (v : Version) : p.Agrees 1 v ↔ v.major = m := by
  simp [Agrees, h, Version.numbers]

theorem agrees_two (p : Partial) {m n : Nat} {rest : List Nat} (h : p.numbers = m :: n :: rest)
    (v : Version) : p.Agrees 2 v ↔ v.major = m ∧ v.minor = n := by
  simp [Agrees, h, Version.numbers]

theorem agrees_three (w v : Version) :
    (Partial.full w).Agrees 3 v ↔ v.major = w.major ∧ v.minor = w.minor ∧ v.patch = w.patch := by
  simp [Agrees, numbers, Version.numbers]

/-- From a floor on, what lies below the next run of versions is what agrees with the floor. -/
theorem accepts_floor_and_below {p : Partial} {v : Version} {a b c : Nat} {agrees : Prop}
    (hp : p ≠ .any) (h : p.order v ≠ .lt → (v.Before a b c ↔ agrees)) :
    Alternative.accepts [⟨.ge, p.floor⟩, ⟨.lt, .lowest a b c⟩] v = true ↔
      p.order v ≠ .lt ∧ agrees := by
  have hfloor : Bound.accepts ⟨.ge, p.floor⟩ v = true ↔ p.order v ≠ .lt := by
    have hbounds : p.atLeastBounds = [⟨.ge, p.floor⟩] := by
      cases p with
      | any => exact absurd rfl hp
      | _ => rfl
    have hadmits : Alternative.accepts p.atLeastBounds v = true ↔ p.order v ≠ .lt :=
      accepts_atLeastBounds p v
    rw [hbounds] at hadmits
    simpa [Alternative.accepts] using hadmits
  simp only [Alternative.accepts_cons, hfloor, Bound.accepts_lt_lowest, Alternative.accepts_nil,
    and_true]
  exact and_congr_right h

theorem accepts_tildeBounds (p : Partial) (v : Version) :
    Alternative.accepts p.tildeBounds v = true ↔ Sign.tilde.Admits p v := by
  cases p with
  | any =>
    simp [tildeBounds, exactBounds, ceiling?, Alternative.accepts, Sign.Admits, order_any, Agrees,
      numbers]
  | major m =>
    refine accepts_floor_and_below (by simp) fun hfloor => ?_
    rw [order_major, Ne, Nat.compare_eq_lt] at hfloor
    rw [show min (Partial.major m).numbers.length 2 = 1 from rfl, agrees_one _ rfl, Version.Before]
    omega
  | minor m n =>
    refine accepts_floor_and_below (by simp) fun hfloor => ?_
    rw [order_minor, Ne, Ordering.then_eq_lt, Nat.compare_eq_lt, Nat.compare_eq_eq,
      Nat.compare_eq_lt] at hfloor
    rw [show min (Partial.minor m n).numbers.length 2 = 2 from rfl, agrees_two _ rfl,
      Version.Before]
    omega
  | full w =>
    refine accepts_floor_and_below (p := .full w) (by simp) fun hfloor => ?_
    have hnumbers := not_before_of_order_full hfloor
    rw [show min (Partial.full w).numbers.length 2 = 2 from rfl, agrees_two _ rfl]
    unfold Version.Before at hnumbers ⊢
    omega

theorem caretBounds_of_ceiling {p : Partial} {c : Version} (h : p.caretCeiling? = some c) :
    p.caretBounds = [⟨.ge, p.floor⟩, ⟨.lt, c⟩] := by
  simp [caretBounds, h]

theorem accepts_caretBounds_minor (m n : Nat) (v : Version) :
    Alternative.accepts (Partial.minor m n).caretBounds v = true ↔
      Sign.caret.Admits (.minor m n) v := by
  by_cases hm : m = 0
  · have hceiling : (Partial.minor m n).caretCeiling? = some (.lowest 0 (n + 1) 0) := by
      simp [caretCeiling?, hm]
    have hlength : (Partial.minor m n).caretLength = 2 := by simp [caretLength, numbers, hm]
    rw [caretBounds_of_ceiling hceiling]
    refine accepts_floor_and_below (by simp) fun hfloor => ?_
    rw [order_minor, Ne, Ordering.then_eq_lt, Nat.compare_eq_lt, Nat.compare_eq_eq,
      Nat.compare_eq_lt] at hfloor
    rw [hlength, agrees_two _ rfl, Version.Before]
    omega
  · have hceiling : (Partial.minor m n).caretCeiling? = some (.lowest (m + 1) 0 0) := by
      simp [caretCeiling?, hm]
    have hlength : (Partial.minor m n).caretLength = 1 := by simp [caretLength, numbers, hm]
    rw [caretBounds_of_ceiling hceiling]
    refine accepts_floor_and_below (by simp) fun hfloor => ?_
    rw [order_minor, Ne, Ordering.then_eq_lt, Nat.compare_eq_lt, Nat.compare_eq_eq,
      Nat.compare_eq_lt] at hfloor
    rw [hlength, agrees_one _ rfl, Version.Before]
    omega

theorem accepts_caretBounds_full (w v : Version) :
    Alternative.accepts (Partial.full w).caretBounds v = true ↔ Sign.caret.Admits (.full w) v := by
  have hnumbers : (Partial.full w).order v ≠ .lt → ¬ v.Before w.major w.minor w.patch :=
    not_before_of_order_full
  unfold Version.Before at hnumbers
  -- the first number that is not zero is the one that has to agree
  by_cases hmajor : w.major = 0
  · by_cases hminor : w.minor = 0
    · have hceiling : (Partial.full w).caretCeiling? = some (.lowest 0 0 (w.patch + 1)) := by
        simp [caretCeiling?, hmajor, hminor]
      have hlength : (Partial.full w).caretLength = 3 := by
        by_cases hpatch : w.patch = 0 <;>
          simp [caretLength, numbers, Version.numbers, hmajor, hminor, hpatch]
      rw [caretBounds_of_ceiling hceiling]
      refine accepts_floor_and_below (by simp) fun hfloor => ?_
      rw [hlength, agrees_three, Version.Before]
      have := hnumbers hfloor
      omega
    · have hceiling : (Partial.full w).caretCeiling? = some (.lowest 0 (w.minor + 1) 0) := by
        simp [caretCeiling?, hmajor, hminor]
      have hlength : (Partial.full w).caretLength = 2 := by
        simp [caretLength, numbers, Version.numbers, hmajor, hminor]
      rw [caretBounds_of_ceiling hceiling]
      refine accepts_floor_and_below (by simp) fun hfloor => ?_
      rw [hlength, agrees_two _ rfl, Version.Before]
      have := hnumbers hfloor
      omega
  · have hceiling : (Partial.full w).caretCeiling? = some (.lowest (w.major + 1) 0 0) := by
      simp [caretCeiling?, hmajor]
    have hlength : (Partial.full w).caretLength = 1 := by
      simp [caretLength, numbers, Version.numbers, hmajor]
    rw [caretBounds_of_ceiling hceiling]
    refine accepts_floor_and_below (by simp) fun hfloor => ?_
    rw [hlength, agrees_one _ rfl, Version.Before]
    have := hnumbers hfloor
    omega

theorem accepts_caretBounds (p : Partial) (v : Version) :
    Alternative.accepts p.caretBounds v = true ↔ Sign.caret.Admits p v := by
  cases p with
  | any =>
    simp [caretBounds, caretCeiling?, Alternative.accepts, Sign.Admits, order_any, Agrees, numbers,
      caretLength]
  | major m =>
    refine accepts_floor_and_below (by simp) fun hfloor => ?_
    rw [order_major, Ne, Nat.compare_eq_lt] at hfloor
    rw [show (Partial.major m).caretLength = 1 by simp [caretLength, numbers], agrees_one _ rfl,
      Version.Before]
    omega
  | minor m n => exact accepts_caretBounds_minor m n v
  | full w => exact accepts_caretBounds_full w v

/-- The bounds of a partial version with a sign accept what the two admit. -/
theorem accepts_bounds (p : Partial) (s : Sign) (v : Version) :
    Alternative.accepts (p.bounds s) v = true ↔ s.Admits p v := by
  cases s with
  | exact => exact accepts_exactBounds p v
  | below => exact accepts_belowBounds p v
  | atMost => exact accepts_atMostBounds p v
  | above => exact accepts_aboveBounds p v
  | atLeast => exact accepts_atLeastBounds p v
  | tilde => exact accepts_tildeBounds p v
  | caret => exact accepts_caretBounds p v

end Partial

/-- The bounds of a clause accept what it admits. -/
theorem Clause.accepts_bounds (c : Clause) (v : Version) :
    Alternative.accepts c.bounds v = true ↔ c.Admits v := by
  cases c with
  | between low high =>
    rw [Clause.bounds, Alternative.accepts_append, Bool.and_eq_true,
      Partial.accepts_atLeastBounds, Partial.accepts_atMostBounds]
    rfl
  | all simples =>
    induction simples with
    | nil => simp [Clause.bounds, Alternative.accepts, Clause.Admits]
    | cons s ss ih =>
      rw [Clause.bounds_all_cons, Alternative.accepts_append, Bool.and_eq_true, ih,
        Partial.accepts_bounds]
      simp [Clause.Admits]

end MergeGate
