import MergeGate.Range.Expression

/-
  MergeGate/Proofs/Version/Lowest.lean
  ====================================
  **The lowest version of three numbers.**  `Version.lowest a b c` is the pre-release `a.b.c-0`.
  Nothing with the numbers `a.b.c` stands below it, so a version is below it exactly when its
  numbers come before `a`, `b`, `c` (`compare_lowest_eq_lt_iff`).  This is what makes the bounds of
  a range with missing numbers cut between whole runs of versions.
-/

namespace MergeGate

open MergeGate.Text

namespace Identifier

theorem isNumber_zero : isNumber ['0'] = true := by decide

/-- No identifier stands below zero. -/
theorem compare_zero_ne_lt (i : Identifier) : compare i ['0'] ≠ .lt := by
  have hvalue : numeralValue ['0'] = 0 := by decide
  unfold compare
  rw [isNumber_zero, hvalue]
  cases isNumber i with
  | true =>
    show Ord.compare (numeralValue i) 0 ≠ .lt
    rw [Ne, Nat.compare_eq_lt]
    omega
  | false =>
    show Ordering.gt ≠ .lt
    decide

end Identifier

namespace Version

/-- The numbers of a version. -/
def numbers (v : Version) : List Nat := [v.major, v.minor, v.patch]

/-- The numbers of a version come before three others. -/
def Before (v : Version) (a b c : Nat) : Prop :=
  v.major < a ∨ v.major = a ∧ (v.minor < b ∨ v.minor = b ∧ v.patch < c)

/-- No pre-release stands below the one of a single zero, and a release does not either. -/
theorem comparePre_zero_ne_lt (is : List Identifier) : comparePre is [['0']] ≠ .lt := by
  cases is with
  | nil => decide
  | cons i is =>
    show (Identifier.compare i ['0']).then (Identifier.compareRows is []) ≠ .lt
    rw [Ne, Ordering.then_eq_lt]
    rintro (hlt | ⟨-, hrest⟩)
    · exact Identifier.compare_zero_ne_lt i hlt
    · cases is <;> cases hrest

/-- Numbers that come before decide the comparison. -/
theorem compare_eq_lt_iff (v w : Version) :
    v.compare w = .lt ↔ v.Before w.major w.minor w.patch ∨
      v.numbers = w.numbers ∧ comparePre v.pre w.pre = .lt := by
  simp only [compare, Ordering.then_eq_lt, Nat.compare_eq_lt, Nat.compare_eq_eq, Before, numbers,
    List.cons.injEq, and_true]
  constructor
  · rintro (h | ⟨h, h' | ⟨h', h'' | ⟨h'', hpre⟩⟩⟩)
    · exact .inl (.inl h)
    · exact .inl (.inr ⟨h, .inl h'⟩)
    · exact .inl (.inr ⟨h, .inr ⟨h', h''⟩⟩)
    · exact .inr ⟨⟨h, h', h''⟩, hpre⟩
  · rintro ((h | ⟨h, h' | ⟨h', h''⟩⟩) | ⟨⟨h, h', h''⟩, hpre⟩)
    · exact .inl h
    · exact .inr ⟨h, .inl h'⟩
    · exact .inr ⟨h, .inr ⟨h', .inl h''⟩⟩
    · exact .inr ⟨h, .inr ⟨h', .inr ⟨h'', hpre⟩⟩⟩

/-- Below the lowest version of three numbers are the versions whose numbers come before. -/
theorem compare_lowest_eq_lt_iff (v : Version) (a b c : Nat) :
    v.compare (.lowest a b c) = .lt ↔ v.Before a b c := by
  rw [compare_eq_lt_iff]
  constructor
  · rintro (hbefore | ⟨-, hpre⟩)
    · exact hbefore
    · exact absurd hpre (comparePre_zero_ne_lt v.pre)
  · exact .inl

end Version

end MergeGate
