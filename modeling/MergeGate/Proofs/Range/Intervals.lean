import MergeGate.Proofs.Version.Order
import MergeGate.Range.Reader

/-
  MergeGate/Proofs/Range/Intervals.lean
  =====================================
  **Alternatives are intervals.**  A bound accepts what stands below a version, what stands above
  it, or what compares with it as equal; each time, what lies between two accepted versions is
  accepted too.  The same holds of a row of bounds, and so of each alternative of a range
  (`Range.alternatives_are_intervals`).  A range of several alternatives may well have gaps.

  All of this rests on the order of versions being transitive.  The bounds of a range may have
  pre-releases that no complete version has, such as `1.2.3-0001.5`.  An order that looked at the
  lengths of pre-releases as texts would not be transitive for these (`compareByLength_apart`).
-/

namespace MergeGate

open MergeGate.Text

namespace Version

variable {u v w : Version}

instance (u v : Version) : Decidable (u.Below v) :=
  decidable_of_iff _ (compare_eq_lt_iff_below u v)

theorem isLE_compare_iff (u v : Version) : (u.compare v).isLE = true ↔ ¬ v.Below u := by
  rw [← compare_eq_gt_iff_below]
  cases u.compare v <;> decide

theorem Below.of_not_below (huv : ¬ v.Below u) (hvw : v.Below w) : u.Below w := by
  rw [← isLE_compare_iff] at huv
  rw [← compare_eq_lt_iff_below] at hvw ⊢
  exact Std.TransCmp.lt_of_isLE_of_lt huv hvw

theorem Below.below_of_not (huv : u.Below v) (hvw : ¬ w.Below v) : u.Below w := by
  rw [← isLE_compare_iff] at hvw
  rw [← compare_eq_lt_iff_below] at huv ⊢
  exact Std.TransCmp.lt_of_lt_of_isLE huv hvw

end Version

/-- What a bound at a version asks of another version. -/
def Relation.Asks (bound v : Version) : Relation → Prop
  | .lt => v.Below bound
  | .le => ¬ bound.Below v
  | .gt => bound.Below v
  | .ge => ¬ v.Below bound
  | .eq => ¬ v.Below bound ∧ ¬ bound.Below v

theorem Bound.accepts_iff_asks (b : Bound) (v : Version) :
    b.accepts v = true ↔ b.relation.Asks b.version v := by
  obtain ⟨relation, bound⟩ := b
  unfold Bound.accepts
  cases relation with
  | lt =>
    rw [Relation.Asks, ← Version.compare_eq_lt_iff_below]
    exact beq_iff_eq
  | le =>
    rw [Relation.Asks, ← Version.compare_eq_gt_iff_below]
    exact bne_iff_ne
  | gt =>
    rw [Relation.Asks, ← Version.compare_eq_gt_iff_below]
    exact beq_iff_eq
  | ge =>
    rw [Relation.Asks, ← Version.compare_eq_lt_iff_below]
    exact bne_iff_ne
  | eq =>
    rw [Relation.Asks, ← Version.compare_eq_lt_iff_below, ← Version.compare_eq_gt_iff_below]
    show (v.compare bound == .eq) = true ↔ _
    cases v.compare bound <;> decide

/-- What lies between two versions that a bound accepts is accepted as well. -/
theorem Relation.Asks.of_between {bound u v w : Version} {relation : Relation}
    (huv : ¬ v.Below u) (hvw : ¬ w.Below v) (hu : relation.Asks bound u)
    (hw : relation.Asks bound w) : relation.Asks bound v := by
  have hlow : ¬ u.Below bound → ¬ v.Below bound := fun hnot hv => hnot (hv.of_not_below huv)
  have hhigh : ¬ bound.Below w → ¬ bound.Below v := fun hnot hv => hnot (hv.below_of_not hvw)
  cases relation with
  | lt => exact Version.Below.of_not_below hvw hw
  | le => exact hhigh hw
  | gt => exact Version.Below.below_of_not hu huv
  | ge => exact hlow hu
  | eq => exact ⟨hlow hu.1, hhigh hw.2⟩

theorem Alternative.accepts_of_between {a : Alternative} {u v w : Version} (huv : ¬ v.Below u)
    (hvw : ¬ w.Below v) (hu : a.accepts u = true) (hw : a.accepts w = true) :
    a.accepts v = true := by
  unfold Alternative.accepts at hu hw ⊢
  rw [List.all_eq_true] at hu hw ⊢
  intro b hb
  have hub := (b.accepts_iff_asks u).mp (hu b hb)
  have hwb := (b.accepts_iff_asks w).mp (hw b hb)
  exact (b.accepts_iff_asks v).mpr (hub.of_between huv hvw hwb)

/-- **Alternatives are intervals of the order of versions.**

    1. How two versions compare says which one stands below the other.
    2. A bound asks a version to stand below its own version, or above, or not to.
    3. If an alternative accepts two versions, it accepts all between them, those that compare with
       one of the two as equal among them. -/
theorem Range.alternatives_are_intervals :
    (∀ u v : Version, (u.compare v = .lt ↔ u.Below v) ∧ (u.compare v = .gt ↔ v.Below u)) ∧
    (∀ (b : Bound) (v : Version), b.accepts v = true ↔ b.relation.Asks b.version v) ∧
    ∀ (r : Range), ∀ a ∈ r.alternatives, ∀ u v w : Version, ¬ v.Below u → ¬ w.Below v →
      a.accepts u = true → a.accepts w = true → a.accepts v = true := by
  refine ⟨?_, Bound.accepts_iff_asks, ?_⟩
  · intro u v
    exact ⟨Version.compare_eq_lt_iff_below u v, Version.compare_eq_gt_iff_below u v⟩
  · intro r a _ u v w huv hvw hu hw
    exact Alternative.accepts_of_between huv hvw hu hw

/-- An interval whose lower end has a number with leading zeros. -/
theorem Range.alternatives_are_intervals_zeros :
    let a : Alternative :=
      [⟨.ge, ⟨1, 2, 3, [['0', '0', '0', '1'], ['5']], []⟩⟩, ⟨.lt, .lowest 1 4 0⟩]
    Range.parse "1.2.3-0001.5 - 1.3" = .ok ⟨"1.2.3-0001.5 - 1.3", [a]⟩ ∧
    Version.ofString? "1.2.3-1.5" = some ⟨1, 2, 3, [['1'], ['5']], []⟩ ∧
    Version.ofString? "1.2.3-1.10" = some ⟨1, 2, 3, [['1'], ['1', '0']], []⟩ ∧
    Version.ofString? "1.3" = some ⟨1, 3, 0, [], []⟩ ∧
    a.accepts ⟨1, 2, 3, [['1'], ['1', '0']], []⟩ = true := by
  refine ⟨by rfl, by rfl, by rfl, by rfl, ?_⟩
  exact Range.alternatives_are_intervals.2.2 ⟨"1.2.3-0001.5 - 1.3", [_]⟩ _ (List.mem_singleton.mpr rfl)
    ⟨1, 2, 3, [['1'], ['5']], []⟩ _ ⟨1, 3, 0, [], []⟩ (by decide) (by decide) (by decide) (by decide)

/-! ### Going by the lengths of texts -/

/-- How the identifiers compare that two rows both have. -/
def Identifier.compareShared : List Identifier → List Identifier → Ordering
  | i :: is, j :: js => (compare i j).then (compareShared is js)
  | _, _ => .eq

/-- As `Version.comparePre`, except that the lengths of the texts decide where the shared identifiers
    do not. -/
def Version.comparePreByLength (p q : List Identifier) : Ordering :=
  match p, q with
  | [], [] => .eq
  | [], _ :: _ => .gt
  | _ :: _, [] => .lt
  | p, q =>
    (Identifier.compareShared p q).then
      (Ord.compare (identifiersText p).length (identifiersText q).length)

def Version.compareByLength (u v : Version) : Ordering :=
  (Ord.compare u.major v.major).then <|
    (Ord.compare u.minor v.minor).then <|
      (Ord.compare u.patch v.patch).then (comparePreByLength u.pre v.pre)

/-- **The lengths of texts do not count.**  `1.2.3-1` satisfies `=1.2.3-01`, although its pre-release is
    the shorter text.  If the lengths counted, alternatives would be no intervals: `>1.2.3-0001`
    would accept `1.2.3-1.1.1` and `1.2.4`, but not `1.2.3-1.2` between them. -/
theorem Version.compareByLength_apart :
    let zeros : Version := ⟨1, 2, 3, [['0', '1']], []⟩
    let one : Version := ⟨1, 2, 3, [['1']], []⟩
    Range.parse "=1.2.3-01" = .ok ⟨"=1.2.3-01", [[⟨.eq, zeros⟩]]⟩ ∧
    Version.ofString? "1.2.3-1" = some one ∧
    satisfies "1.2.3-1" (.text "=1.2.3-01") = .ok true ∧
    Relation.eq.holds (one.compareByLength zeros) = false ∧
    let bound : Version := ⟨1, 2, 3, [['0', '0', '0', '1']], []⟩
    let u : Version := ⟨1, 2, 3, [['1'], ['1'], ['1']], []⟩
    let v : Version := ⟨1, 2, 3, [['1'], ['2']], []⟩
    let w : Version := ⟨1, 2, 4, [], []⟩
    Range.parse ">1.2.3-0001" = .ok ⟨">1.2.3-0001", [[⟨.gt, bound⟩]]⟩ ∧
    Version.ofString? "1.2.3-1.1.1" = some u ∧ Version.ofString? "1.2.3-1.2" = some v ∧
    Version.ofString? "1.2.4" = some w ∧
    u.compareByLength v = .lt ∧ v.compareByLength w = .lt ∧
    Relation.gt.holds (u.compareByLength bound) = true ∧
    Relation.gt.holds (v.compareByLength bound) = false ∧
    Relation.gt.holds (w.compareByLength bound) = true := by
  refine ⟨by rfl, by rfl, by rfl, by decide, by rfl, by rfl, by rfl, by rfl, ?_⟩
  decide

end MergeGate
