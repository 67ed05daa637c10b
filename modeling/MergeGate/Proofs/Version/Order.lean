import Mathlib.Data.List.Basic
import MergeGate.Proofs.Version.Lowest

/-
  MergeGate/Proofs/Version/Order.lean
  ===================================
  **The order of versions.**  `Version.compare` computes how two versions compare.  What it computes
  is said here without computing (`Version.Below`):

    * the first numbers that differ decide;
    * of two versions with the same numbers a pre-release stands below a release;
    * of two pre-releases the first identifiers that differ decide, and if there are none, the one
      with fewer identifiers stands below (`Identifier.RowBelow`);
    * identifiers that are numbers go by their values and stand below all others, which go by the
      code points of their characters (`Identifier.Below`).

  This order is total and transitive up to versions that compare as equal (`Std.TransCmp`), also
  for identifiers with leading zeros, or with digits that are not ASCII.
-/

namespace MergeGate

open MergeGate.Text

namespace Identifier

/-! ### Identifiers -/

/-- An identifier stands below another one. -/
inductive Below (i j : Identifier) : Prop where
  | numbers (hi : i.isNumber = true) (hj : j.isNumber = true)
      (h : numeralValue i < numeralValue j) : Below i j
  | number (hi : i.isNumber = true) (hj : j.isNumber = false) : Below i j
  | texts (hi : i.isNumber = false) (hj : j.isNumber = false)
      (h : i.map Char.toNat < j.map Char.toNat) : Below i j

/-- Two identifiers are one number, or the same text. -/
inductive Alike (i j : Identifier) : Prop where
  | numbers (hi : i.isNumber = true) (hj : j.isNumber = true)
      (h : numeralValue i = numeralValue j) : Alike i j
  | texts (hi : i.isNumber = false) (hj : j.isNumber = false) (h : i = j) : Alike i j

theorem compareText_eq_compareLex : compareText = List.compareLex (compareOn Char.toNat) := by
  funext a b
  induction a generalizing b with
  | nil => cases b <;> rfl
  | cons c a ih =>
    cases b with
    | nil => rfl
    | cons d b => rw [compareText, List.compareLex_cons_cons, ih, compareOn]

theorem compareText_eq_lt_iff (a b : List Char) :
    compareText a b = .lt ↔ a.map Char.toNat < b.map Char.toNat := by
  induction a generalizing b with
  | nil => cases b <;> simp [compareText]
  | cons c a ih =>
    cases b with
    | nil => simp [compareText]
    | cons d b =>
      rw [compareText, Ordering.then_eq_lt, Nat.compare_eq_lt, Nat.compare_eq_eq, ih, List.map_cons,
        List.map_cons, List.cons_lt_cons_iff]

theorem compareText_eq_eq_iff (a b : List Char) : compareText a b = .eq ↔ a = b := by
  induction a generalizing b with
  | nil => cases b <;> simp [compareText]
  | cons c a ih =>
    cases b with
    | nil => simp [compareText]
    | cons d b =>
      rw [compareText, Ordering.then_eq_eq, Nat.compare_eq_eq, ih, Char.toNat_inj, List.cons.injEq]

theorem compare_eq_lt_iff (i j : Identifier) : compare i j = .lt ↔ Below i j := by
  unfold compare
  constructor
  · intro h
    split at h
    · rename_i hi hj
      exact .numbers hi hj (Nat.compare_eq_lt.mp h)
    · rename_i hi hj
      exact .number hi hj
    · cases h
    · rename_i hi hj
      exact .texts hi hj ((compareText_eq_lt_iff i j).mp h)
  · intro h
    cases h with
    | numbers hi hj h =>
      rw [hi, hj]
      exact Nat.compare_eq_lt.mpr h
    | number hi hj => rw [hi, hj]
    | texts hi hj h =>
      rw [hi, hj]
      exact (compareText_eq_lt_iff i j).mpr h

theorem compare_eq_eq_iff (i j : Identifier) : compare i j = .eq ↔ Alike i j := by
  unfold compare
  constructor
  · intro h
    split at h
    · rename_i hi hj
      exact .numbers hi hj (Nat.compare_eq_eq.mp h)
    · cases h
    · cases h
    · rename_i hi hj
      exact .texts hi hj ((compareText_eq_eq_iff i j).mp h)
  · intro h
    cases h with
    | numbers hi hj h =>
      rw [hi, hj]
      exact Nat.compare_eq_eq.mpr h
    | texts hi hj h =>
      rw [hi, hj]
      exact (compareText_eq_eq_iff i j).mpr h

instance : Std.TransCmp compareText := by
  rw [compareText_eq_compareLex]
  infer_instance

instance : Std.TransCmp compare where
  eq_swap {i j} := by
    have htexts : compareText i j = (compareText j i).swap := Std.OrientedCmp.eq_swap
    unfold compare
    cases i.isNumber <;> cases j.isNumber
    · exact htexts
    · rfl
    · rfl
    · exact Std.OrientedOrd.eq_swap
  isLE_trans {i j k} hij hjk := by
    have htexts : (compareText i j).isLE → (compareText j k).isLE → (compareText i k).isLE :=
      Std.TransCmp.isLE_trans
    unfold compare at hij hjk ⊢
    revert hij hjk
    -- numbers come before the others, so only identifiers of one kind are compared
    cases i.isNumber with
    | true =>
      cases k.isNumber with
      | true =>
        cases j.isNumber with
        | true => exact Std.TransOrd.isLE_trans
        | false =>
          intro _ hjk
          cases hjk
      | false =>
        intro _ _
        rfl
    | false =>
      cases j.isNumber with
      | true =>
        intro hij
        cases hij
      | false =>
        cases k.isNumber with
        | true =>
          intro _ hjk
          cases hjk
        | false => exact htexts

/-! ### Rows of identifiers -/

/-- A row of identifiers stands below another one: the first two that differ decide, and if there are
    none, the number of identifiers. -/
inductive RowBelow : List Identifier → List Identifier → Prop where
  | first {i j : Identifier} {is js : List Identifier} (h : Below i j) :
      RowBelow (i :: is) (j :: js)
  | next {i j : Identifier} {is js : List Identifier} (h : Alike i j) (hrest : RowBelow is js) :
      RowBelow (i :: is) (j :: js)
  | fewer {j : Identifier} {js : List Identifier} : RowBelow [] (j :: js)

theorem compareRows_eq_compareLex : compareRows = List.compareLex compare := by
  funext is js
  induction is generalizing js with
  | nil => cases js <;> rfl
  | cons i is ih =>
    cases js with
    | nil => rfl
    | cons j js => rw [compareRows, List.compareLex_cons_cons, ih]

instance : Std.TransCmp compareRows := by
  rw [compareRows_eq_compareLex]
  infer_instance

theorem compareRows_eq_lt_iff (is js : List Identifier) :
    compareRows is js = .lt ↔ RowBelow is js := by
  induction is generalizing js with
  | nil =>
    cases js with
    | nil =>
      constructor
      · intro h
        cases h
      · intro h
        cases h
    | cons j js => exact ⟨fun _ => .fewer, fun _ => rfl⟩
  | cons i is ih =>
    cases js with
    | nil =>
      constructor
      · intro h
        cases h
      · intro h
        cases h
    | cons j js =>
      -- below at the first place, or the same there and below in the rest
      rw [compareRows, Ordering.then_eq_lt, compare_eq_lt_iff, compare_eq_eq_iff, ih]
      constructor
      · rintro (h | ⟨h, hrest⟩)
        · exact .first h
        · exact .next h hrest
      · intro h
        cases h with
        | first h => exact .inl h
        | next h hrest => exact .inr ⟨h, hrest⟩

end Identifier

namespace Version

/-! ### Versions -/

/-- A version stands below another one.  Build identifiers do not count. -/
inductive Below (u v : Version) : Prop where
  | numbers (h : u.Before v.major v.minor v.patch) : Below u v
  | release (hnumbers : u.numbers = v.numbers) (hu : u.pre ≠ []) (hv : v.pre = []) : Below u v
  | pre (hnumbers : u.numbers = v.numbers) (hu : u.pre ≠ [])
      (h : Identifier.RowBelow u.pre v.pre) : Below u v

theorem comparePre_eq_lt_iff (p q : List Identifier) :
    comparePre p q = .lt ↔ p ≠ [] ∧ (q = [] ∨ Identifier.RowBelow p q) := by
  cases p with
  | nil => cases q <;> simp [comparePre]
  | cons i p =>
    cases q with
    | nil => simp [comparePre]
    | cons j q => simp [comparePre, Identifier.compareRows_eq_lt_iff]

/-- The comparison of versions says which one stands below the other. -/
theorem compare_eq_lt_iff_below (u v : Version) : u.compare v = .lt ↔ u.Below v := by
  rw [compare_eq_lt_iff, comparePre_eq_lt_iff]
  constructor
  · rintro (h | ⟨hnumbers, hu, hv | h⟩)
    · exact .numbers h
    · exact .release hnumbers hu hv
    · exact .pre hnumbers hu h
  · intro h
    cases h with
    | numbers h => exact .inl h
    | release hnumbers hu hv => exact .inr ⟨hnumbers, hu, .inl hv⟩
    | pre hnumbers hu h => exact .inr ⟨hnumbers, hu, .inr h⟩

instance : Std.TransCmp comparePre where
  eq_swap {p q} := by
    have hrows : Identifier.compareRows p q = (Identifier.compareRows q p).swap :=
      Std.OrientedCmp.eq_swap
    cases p with
    | nil => cases q <;> rfl
    | cons i p =>
      cases q with
      | nil => rfl
      | cons j q => exact hrows
  isLE_trans {p q r} hpq hqr := by
    have hrows : (Identifier.compareRows p q).isLE → (Identifier.compareRows q r).isLE →
        (Identifier.compareRows p r).isLE := Std.TransCmp.isLE_trans
    cases r with
    | nil => cases p <;> rfl
    | cons k r =>
      cases q with
      | nil => cases hqr
      | cons j q =>
        cases p with
        | nil => cases hpq
        | cons i p => exact hrows hpq hqr

/-- The comparison goes by the numbers and then by the pre-releases. -/
theorem compare_eq_compareLex :
    compare = compareLex (compareOn Version.major) (compareLex (compareOn Version.minor)
      (compareLex (compareOn Version.patch) fun u v => comparePre u.pre v.pre)) := rfl

instance : Std.TransCmp compare := by
  have hpre : Std.TransCmp fun u v : Version => comparePre u.pre v.pre :=
    { eq_swap := Std.OrientedCmp.eq_swap
      isLE_trans := Std.TransCmp.isLE_trans }
  rw [compare_eq_compareLex]
  infer_instance

theorem compare_eq_gt_iff_below (u v : Version) : u.compare v = .gt ↔ v.Below u := by
  rw [Std.OrientedCmp.gt_iff_lt, compare_eq_lt_iff_below]

end Version

end MergeGate
