import MergeGate.Proofs.Json.RoundTrip
import Mathlib.Data.List.Forall2
import Mathlib.Data.List.Perm.Basic

/-
  MergeGate/Proofs/Json/MemberOrder.lean
  ======================================
  **The order of members.**  Objects are mappings, so two values say the same when they differ at
  most in the order in which the members of an object stand (`Same`).  Putting the members of every
  object into the order of their names does not change what a value says (`IsData.same_sorted`), and
  a member is found in the sorted object as it was before (`Members.get?_inOrder`).
-/

namespace MergeGate.Json

/-- Two values that differ at most in the order of the members of objects. -/
inductive Same : Json → Json → Prop where
  | null : Same .null .null
  | bool (b : Bool) : Same (.bool b) (.bool b)
  | int (n : Int) : Same (.int n) (.int n)
  | number (x : Decimal.Binary) : Same (.number x) (.number x)
  | text (s : String) : Same (.text s) (.text s)
  | list {xs ys : List Json} (h : List.Forall₂ Same xs ys) : Same (.list xs) (.list ys)
  | object {ms ns : Members} (h : ∀ name, Option.Rel Same (ms.get? name) (ns.get? name)) :
      Same (.object ms) (.object ns)

/-- The members in the order of their names, and so inside each of them. -/
def Members.inOrder (ms : Members) : Members :=
  (ms.map fun m => (m.1, m.2.sorted)).mergeSort fun a b => textLe a.1 b.1

theorem sortedItems_eq_map (xs : List Json) : sortedItems xs = xs.map sorted := by
  induction xs with
  | nil => rfl
  | cons x xs ih => rw [sortedItems, ih, List.map_cons]

theorem sortedMembers_eq_map (ms : Members) :
    sortedMembers ms = ms.map fun m => (m.1, m.2.sorted) := by
  induction ms with
  | nil => rfl
  | cons m ms ih => rw [sortedMembers, ih, List.map_cons]

@[simp] theorem sorted_bool (b : Bool) : (Json.bool b).sorted = .bool b := rfl

@[simp] theorem sorted_text (s : String) : (Json.text s).sorted = .text s := rfl

@[simp] theorem sorted_list (xs : List Json) : (Json.list xs).sorted = .list (xs.map sorted) := by
  rw [sorted, sortedItems_eq_map]

@[simp] theorem sorted_object (ms : Members) : (Json.object ms).sorted = .object ms.inOrder := by
  rw [sorted, sortedMembers_eq_map, Members.inOrder]

/-! ### Looking members up -/

namespace Members

variable {ms ns : Members}

theorem get?_eq_some_iff (hnames : (ms.map Prod.fst).Nodup) (name : String) (v : Json) :
    ms.get? name = some v ↔ (name, v) ∈ ms := by
  induction ms with
  | nil => simp [get?]
  | cons m ms ih =>
    obtain ⟨k, w⟩ := m
    simp only [List.map_cons, List.nodup_cons] at hnames
    by_cases hk : k = name
    · subst hk
      have hrest : (k, v) ∉ ms := fun hmem => hnames.1 (List.mem_map_of_mem hmem)
      simp [get?, hrest, eq_comm]
    · have hne : name ≠ k := Ne.symm hk
      simp [get?, hk, hne, ih hnames.2]

theorem get?_of_perm (hnames : (ms.map Prod.fst).Nodup) (hperm : ns.Perm ms) (name : String) :
    ns.get? name = ms.get? name := by
  have hns : (ns.map Prod.fst).Nodup := (hperm.map Prod.fst).nodup_iff.mpr hnames
  apply Option.ext
  intro v
  rw [get?_eq_some_iff hns, get?_eq_some_iff hnames, hperm.mem_iff]

theorem get?_map (f : Json → Json) (ms : Members) (name : String) :
    get? (ms.map fun m => (m.1, f m.2)) name = (ms.get? name).map f := by
  induction ms with
  | nil => rfl
  | cons m ms ih =>
    obtain ⟨k, w⟩ := m
    by_cases hk : k = name <;> simp [get?, hk, ih]

theorem inOrder_perm (ms : Members) : ms.inOrder.Perm (ms.map fun m => (m.1, m.2.sorted)) :=
  List.mergeSort_perm _ _

theorem nodup_inOrder (hnames : (ms.map Prod.fst).Nodup) : (ms.inOrder.map Prod.fst).Nodup := by
  rw [((inOrder_perm ms).map Prod.fst).nodup_iff, List.map_map]
  exact hnames

/-- A member of the sorted object is the sorted member. -/
theorem get?_inOrder (hnames : (ms.map Prod.fst).Nodup) (name : String) :
    ms.inOrder.get? name = (ms.get? name).map sorted := by
  rw [get?_of_perm (by rw [List.map_map]; exact hnames) (inOrder_perm ms), get?_map]

end Members

/-! ### Sorting -/

theorem IsData.sorted {depth : Nat} {v : Json} (h : IsData depth v) : IsData depth v.sorted := by
  induction h with
  | null => exact .null
  | bool b => exact .bool b
  | int hlength => exact .int hlength
  | text s => exact .text s
  | list hxs ih =>
    rw [sorted_list]
    apply IsData.list
    intro y hy
    obtain ⟨x, hx, rfl⟩ := List.mem_map.mp hy
    exact ih x hx
  | object hnames hms ih =>
    rw [sorted_object]
    apply IsData.object (Members.nodup_inOrder hnames)
    intro n hn
    obtain ⟨m, hm, rfl⟩ := List.mem_map.mp ((Members.inOrder_perm _).mem_iff.mp hn)
    exact ih m hm

/-- Sorting does not change what a value says. -/
theorem IsData.same_sorted {depth : Nat} {v : Json} (h : IsData depth v) : Same v v.sorted := by
  induction h with
  | null => exact .null
  | bool b => exact .bool b
  | int hlength => exact .int _
  | text s => exact .text s
  | list hxs ih =>
    rw [sorted_list]
    apply Same.list
    rw [List.forall₂_map_right_iff, List.forall₂_same]
    exact ih
  | object hnames hms ih =>
    rename_i depth ms
    rw [sorted_object]
    apply Same.object
    intro name
    -- a name is found on both sides or on none, and what is found on the right is the sorted value
    rw [Members.get?_inOrder hnames]
    cases hget : ms.get? name with
    | none => exact .none
    | some v => exact .some (ih (name, v) ((Members.get?_eq_some_iff hnames name v).mp hget))

end MergeGate.Json
