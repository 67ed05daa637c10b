import Mathlib.Data.List.Nodup
import Mathlib.Data.List.Sort
import Mathlib.Data.String.Basic
import MergeGate.Proofs.Json.MemberOrder

/-
  MergeGate/Proofs/Json/Ordered.lean
  ==================================
  **Sorting by texts.**  What is sorted by texts that are all different comes out the same, however it
  was ordered before (`mergeSort_eq_of_perm`), and what is in order stays as it is.

  Members that are sorted by their names and then joined, where a name comes more than once, have
  names in strictly increasing order (`Members.pairwise_names_ofList`).  A value in which this holds
  of every object is ordered (`IsOrdered`).
-/

namespace MergeGate.Json

/-! ### Sorting by a text -/

section Sorting

variable {α : Type} {f : α → String} {xs ys : List α}

theorem pairwise_mergeSort (f : α → String) (xs : List α) :
    (xs.mergeSort fun a b => textLe (f a) (f b)).Pairwise fun a b => f a ≤ f b := by
  have htrans : ∀ a b c : α, textLe (f a) (f b) = true → textLe (f b) (f c) = true →
      textLe (f a) (f c) = true := by
    intro a b c hab hbc
    exact decide_eq_true ((of_decide_eq_true hab).trans (of_decide_eq_true hbc))
  have htotal : ∀ a b : α, (textLe (f a) (f b) || textLe (f b) (f a)) = true := by
    intro a b
    simpa [textLe] using le_total (f a) (f b)
  exact (List.pairwise_mergeSort htrans htotal xs).imp fun h => of_decide_eq_true h

/-- The order before does not matter if the texts are all different. -/
theorem mergeSort_eq_of_perm (h : xs.Perm ys) (hkeys : (xs.map f).Nodup) :
    (xs.mergeSort fun a b => textLe (f a) (f b)) =
      ys.mergeSort fun a b => textLe (f a) (f b) := by
  have hxs := List.mergeSort_perm xs fun a b => textLe (f a) (f b)
  have hys := List.mergeSort_perm ys fun a b => textLe (f a) (f b)
  refine (hxs.trans (h.trans hys.symm)).eq_of_pairwise ?_ (pairwise_mergeSort f xs)
    (pairwise_mergeSort f ys)
  intro a b ha hb hab hba
  exact List.inj_on_of_nodup_map hkeys (hxs.mem_iff.mp ha) (h.mem_iff.mpr (hys.mem_iff.mp hb))
    (le_antisymm hab hba)

theorem mergeSort_eq_self (h : xs.Pairwise fun a b => f a ≤ f b) :
    (xs.mergeSort fun a b => textLe (f a) (f b)) = xs :=
  List.mergeSort_of_pairwise (h.imp fun hle => decide_eq_true hle)

end Sorting

/-! ### Joining members -/

namespace Members

variable {ms : Members}

/-- A name that is there keeps its place, and any other one comes last. -/
theorem names_put (ms : Members) (name : String) (v : Json) :
    (put ms name v).map Prod.fst =
      if name ∈ ms.map Prod.fst then ms.map Prod.fst else ms.map Prod.fst ++ [name] := by
  induction ms with
  | nil => rfl
  | cons m ms ih =>
    obtain ⟨k, w⟩ := m
    rw [put]
    by_cases hk : k = name
    · simp [hk]
    · have hne : name ≠ k := Ne.symm hk
      rw [if_neg hk, List.map_cons, ih]
      by_cases hmem : name ∈ ms.map Prod.fst
      · simp [hmem]
      · simp [hmem, hne]

/-- Members in the order of their names, when they are joined, have increasing names. -/
theorem pairwise_names_ofList (h : ms.Pairwise fun a b => a.1 ≤ b.1) :
    ((ofList ms).map Prod.fst).Pairwise (· < ·) := by
  -- the names so far increase, and none of them is beyond any name that is still to come
  have hfold : ∀ out : Members, (out.map Prod.fst).Pairwise (· < ·) →
      (∀ k ∈ out.map Prod.fst, ∀ m ∈ ms, k ≤ m.1) →
      ((ms.foldl (fun out m => put out m.1 m.2) out).map Prod.fst).Pairwise (· < ·) := by
    induction h with
    | nil => exact fun out hout _ => hout
    | @cons m ms hm _ ih =>
      intro out hout hbelow
      rw [List.foldl_cons]
      have hnames := names_put out m.1 m.2
      by_cases hmem : m.1 ∈ out.map Prod.fst
      · rw [if_pos hmem] at hnames
        apply ih
        · rw [hnames]
          exact hout
        · rw [hnames]
          exact fun k hk n hn => hbelow k hk n (List.mem_cons_of_mem m hn)
      · rw [if_neg hmem] at hnames
        have hlast : ∀ k ∈ out.map Prod.fst, k < m.1 := by
          intro k hk
          exact lt_of_le_of_ne (hbelow k hk m List.mem_cons_self) (ne_of_mem_of_not_mem hk hmem)
        apply ih
        · rw [hnames, List.pairwise_append]
          exact ⟨hout, List.pairwise_singleton _ _, by simpa using hlast⟩
        · rw [hnames]
          intro k hk n hn
          rcases List.mem_append.mp hk with hk | hk
          · exact hbelow k hk n (List.mem_cons_of_mem m hn)
          · rw [List.mem_singleton.mp hk]
            exact hm n hn
  exact hfold [] .nil (by simp)

theorem map_eq_self {f : Json → Json} (h : ∀ m ∈ ms, f m.2 = m.2) :
    (ms.map fun m => (m.1, f m.2)) = ms := by
  refine (List.map_congr_left ?_).trans (List.map_id ms)
  intro m hm
  rw [h m hm, id]

end Members

/-! ### Ordered values -/

/-- In every object, at any depth, the names are in strictly increasing order by code points. -/
inductive IsOrdered : Json → Prop where
  | null : IsOrdered .null
  | bool (b : Bool) : IsOrdered (.bool b)
  | int (n : Int) : IsOrdered (.int n)
  | number (x : Decimal.Binary) : IsOrdered (.number x)
  | text (s : String) : IsOrdered (.text s)
  | list {xs : List Json} (h : ∀ x ∈ xs, IsOrdered x) : IsOrdered (.list xs)
  | object {ms : Members} (hnames : (ms.map Prod.fst).Pairwise (· < ·))
      (h : ∀ m ∈ ms, IsOrdered m.2) : IsOrdered (.object ms)

end MergeGate.Json
