import MergeGate.Range.Basic

/-
  MergeGate/Range/Expression.lean
  ===============================
  **What authors write, and the bounds it stands for.**  An author writes versions of which the
  last numbers may be left out or be wildcards (`Partial`), with a sign before them that says
  how they bound a version (`Sign`), or two of them with a hyphen between (`Clause.between`).
  `Clause.bounds` turns this into bounds.

  A partial version that lacks a number stands for all versions that agree with it on the numbers
  it has, pre-releases included: those from its `floor` up to below its `ceiling`.
-/

namespace MergeGate

/-- A version of which the last numbers may be missing. -/
inductive Partial where
  | any
  | major (m : Nat)
  | minor (m n : Nat)
  | full (v : Version)
  deriving DecidableEq, Repr

/-- The first version of three numbers: its lowest pre-release. -/
def Version.lowest (major minor patch : Nat) : Version := ⟨major, minor, patch, [['0']], []⟩

namespace Partial

/-- The partial version of up to three numbers, which ends at the first one missing; only a full
one keeps identifiers. -/
def ofNumbers (pre build : List Identifier) : Option Nat → Option Nat → Option Nat → Partial
  | none, _, _ => .any
  | some m, none, _ => .major m
  | some m, some n, none => .minor m n
  | some m, some n, some p => .full ⟨m, n, p, pre, build⟩

/-- The lowest version covered. -/
def floor : Partial → Version
  | .any => .lowest 0 0 0
  | .major m => .lowest m 0 0
  | .minor m n => .lowest m n 0
  | .full v => v

/-- The first version above those covered, if only some numbers are given. -/
def ceiling? : Partial → Option Version
  | .any => none
  | .major m => some (.lowest (m + 1) 0 0)
  | .minor m n => some (.lowest m (n + 1) 0)
  | .full _ => none

end Partial

/-- How a partial version bounds a version. -/
inductive Sign where
  | exact
  | below
  | atMost
  | above
  | atLeast
  | tilde
  | caret
  deriving DecidableEq, Repr

/-- The row of bounds that no version satisfies. -/
def nothing : Alternative := [⟨.lt, .lowest 0 0 0⟩]

namespace Partial

/-- A version that agrees with the partial one on the numbers it has. -/
def exactBounds : Partial → Alternative
  | .full v => [⟨.eq, v⟩]
  | p =>
    match p.ceiling? with
    | none => []
    | some c => [⟨.ge, p.floor⟩, ⟨.lt, c⟩]

/-- A version below all that are covered. -/
def belowBounds : Partial → Alternative
  | .any => nothing
  | p => [⟨.lt, p.floor⟩]

/-- A version not above all that are covered. -/
def atMostBounds : Partial → Alternative
  | .full v => [⟨.le, v⟩]
  | p =>
    match p.ceiling? with
    | none => []
    | some c => [⟨.lt, c⟩]

/-- A version above all that are covered. -/
def aboveBounds : Partial → Alternative
  | .any => nothing
  | .full v => [⟨.gt, v⟩]
  | p =>
    match p.ceiling? with
    | none => []
    | some c => [⟨.ge, c⟩]

/-- A version not below all that are covered. -/
def atLeastBounds : Partial → Alternative
  | .any => []
  | p => [⟨.ge, p.floor⟩]

/-- A version from the partial one on that agrees with it on the first two numbers. -/
def tildeBounds : Partial → Alternative
  | .full v => [⟨.ge, v⟩, ⟨.lt, .lowest v.major (v.minor + 1) 0⟩]
  | p => p.exactBounds

/-- The first version that differs from the partial one at the leftmost number that is not zero,
or at the last number if all are zero. -/
def caretCeiling? : Partial → Option Version
  | .any => none
  | .major m => some (.lowest (m + 1) 0 0)
  | .minor m n => some (if m ≠ 0 then .lowest (m + 1) 0 0 else .lowest 0 (n + 1) 0)
  | .full v =>
    some (if v.major ≠ 0 then .lowest (v.major + 1) 0 0
      else if v.minor ≠ 0 then .lowest 0 (v.minor + 1) 0
      else .lowest 0 0 (v.patch + 1))

/-- A version from the partial one on that agrees with it up to its leftmost number that is not
zero. -/
def caretBounds (p : Partial) : Alternative :=
  match p.caretCeiling? with
  | none => []
  | some c => [⟨.ge, p.floor⟩, ⟨.lt, c⟩]

/-- The bounds of a partial version with a sign. -/
def bounds (p : Partial) : Sign → Alternative
  | .exact => p.exactBounds
  | .below => p.belowBounds
  | .atMost => p.atMostBounds
  | .above => p.aboveBounds
  | .atLeast => p.atLeastBounds
  | .tilde => p.tildeBounds
  | .caret => p.caretBounds

end Partial

/-- One alternative as it is written: two ends, or partial versions with signs. -/
inductive Clause where
  | between (low high : Partial)
  | all (simples : List (Sign × Partial))
  deriving DecidableEq, Repr

def Clause.bounds : Clause → Alternative
  | .between low high => low.atLeastBounds ++ high.atMostBounds
  | .all simples => simples.flatMap fun s => s.2.bounds s.1

theorem Clause.bounds_all_cons (s : Sign × Partial) (ss : List (Sign × Partial)) :
    (Clause.all (s :: ss)).bounds = s.2.bounds s.1 ++ (Clause.all ss).bounds := by
  simp [Clause.bounds]

end MergeGate
