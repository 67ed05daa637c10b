import Mathlib.Logic.Relation
import MergeGate.Proofs.Json.MemberOrder

/-
  MergeGate/Proofs/Json/Reordering.lean
  =====================================
  **Reordered values.**  One step puts the members of one object, at whatever depth, into another
  order (`Reorders`); any number of steps make a reordered value (`Reordered`).  The names of the
  object that is reordered are all different, and no step changes a name.

  After a step a member is found as before, but for a step inside of it (`Reorders.get?_cases`).  So
  the texts among the members stay what they are (`Reorders.filledText?_get?`).
-/

namespace MergeGate.Json

/-- The members of one object, at some place in the value, are put into another order. -/
inductive Reorders : Json → Json → Prop where
  | members {ms ns : Members} (hnames : (ms.map Prod.fst).Nodup) (h : ms.Perm ns) :
      Reorders (.object ms) (.object ns)
  | member {front back : Members} {name : String} {v w : Json} (h : Reorders v w) :
      Reorders (.object (front ++ (name, v) :: back)) (.object (front ++ (name, w) :: back))
  | item {front back : List Json} {v w : Json} (h : Reorders v w) :
      Reorders (.list (front ++ v :: back)) (.list (front ++ w :: back))

/-- The members of any objects in the value are put into another order. -/
def Reordered : Json → Json → Prop := Relation.ReflTransGen Reorders

/-- Where one value stands for another in a member, a name is found as before or is found there. -/
theorem Members.get?_replaced (front back : Members) (name : String) (v w : Json) (other : String) :
    get? (front ++ (name, w) :: back) other = get? (front ++ (name, v) :: back) other ∨
    get? (front ++ (name, v) :: back) other = some v ∧
      get? (front ++ (name, w) :: back) other = some w := by
  induction front with
  | nil =>
    by_cases hname : name = other
    · exact .inr ⟨if_pos hname, if_pos hname⟩
    · left
      rw [List.nil_append, List.nil_append, get?, get?, if_neg hname, if_neg hname]
  | cons m front ih =>
    obtain ⟨k, x⟩ := m
    by_cases hk : k = other
    · left
      rw [List.cons_append, List.cons_append, get?, get?, if_pos hk, if_pos hk]
    · rw [List.cons_append, List.cons_append, get?, get?, if_neg hk, if_neg hk]
      exact ih

namespace Reorders

variable {v w : Json}

theorem symm (h : Reorders v w) : Reorders w v := by
  induction h with
  | members hnames hperm => exact .members ((hperm.map Prod.fst).nodup_iff.mp hnames) hperm.symm
  | member _ ih => exact .member ih
  | item _ ih => exact .item ih

/-- A step leads from an object to an object of as many members. -/
theorem exists_members {ms : Members} (h : Reorders (.object ms) w) :
    ∃ ns, w = .object ns ∧ ns.length = ms.length := by
  cases h with
  | members hnames hperm => exact ⟨_, rfl, hperm.length_eq.symm⟩
  | member h => exact ⟨_, rfl, by simp⟩

/-- After a step a member is found as before, or the step was inside of it. -/
theorem get?_cases (h : Reorders v w) (name : String) :
    w.get? name = v.get? name ∨
    ∃ x y, v.get? name = some x ∧ w.get? name = some y ∧ Reorders x y := by
  cases h with
  | members hnames hperm => exact .inl (Members.get?_of_perm hnames hperm.symm name)
  | @member front back k x y h =>
    rcases Members.get?_replaced front back k x y name with hsame | ⟨hx, hy⟩
    · exact .inl hsame
    · exact .inr ⟨x, y, hx, hy, h⟩
  | item h => exact .inl rfl

theorem filledText?_left (h : Reorders v w) : v.filledText? = none := by
  cases h <;> rfl

theorem filledText?_right (h : Reorders v w) : w.filledText? = none := by
  cases h <;> rfl

/-- No step changes a text among the members. -/
theorem filledText?_get? (h : Reorders v w) (name : String) :
    (w.get? name).bind filledText? = (v.get? name).bind filledText? := by
  rcases h.get?_cases name with hsame | ⟨x, y, hx, hy, hxy⟩
  · rw [hsame]
  · rw [hx, hy, Option.bind_some, Option.bind_some, hxy.filledText?_left, hxy.filledText?_right]

end Reorders

end MergeGate.Json
