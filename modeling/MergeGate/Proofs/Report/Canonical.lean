import Mathlib.Logic.Relation
import MergeGate.Proofs.Json.Nesting
import MergeGate.Proofs.Json.Ordered
import MergeGate.Proofs.Report.Codec
import MergeGate.Report.Export

/-
  MergeGate/Proofs/Report/Canonical.lean
  ======================================
  **Shown values do not depend on the order of mappings and sets.**  One step puts the entries of one
  mapping, the context of one violation or the items of one set, at whatever depth, into another
  order (`Exported.Reorders`).  As long as no two keys of a mapping and no two converted items of
  a set have the same text (`Exported.IsClear`), no step changes the JSON of the whole
  (`Reorders.toJson_eq`), so the documents are the same for every indent.

  The items of a set are sorted by the text of what they are converted to.  A step inside of an item
  is therefore undone before the items are compared, and this is why the induction speaks of
  converted values.

  What comes out is ordered (`isOrdered_toJson`), and what is ordered is converted to itself
  (`toJson_ofJson_of_isOrdered`).  Both hold of every value.
-/

namespace MergeGate.Exported

open MergeGate.Json

/-! ### Order in mappings and sets -/

/-- The entries of one mapping, the context of one violation or the items of one set, at some place in
    the value, are put into another order. -/
inductive Reorders : Exported → Exported → Prop where
  | entries {es fs : List (Exported × Exported)} (h : es.Perm fs) : Reorders (.mapping es) (.mapping fs)
  | context {rule : String} {level : Severity} {message : String} {remediation : Option String}
      {es fs : List (Exported × Exported)} (h : es.Perm fs) :
      Reorders (.finding rule level message remediation es) (.finding rule level message remediation fs)
  | items {xs ys : List Exported} (h : xs.Perm ys) : Reorders (.set xs) (.set ys)
  | inEntry {front back : List (Exported × Exported)} {key v w : Exported} (h : Reorders v w) :
      Reorders (.mapping (front ++ (key, v) :: back)) (.mapping (front ++ (key, w) :: back))
  | inContext {rule : String} {level : Severity} {message : String} {remediation : Option String}
      {front back : List (Exported × Exported)} {key v w : Exported} (h : Reorders v w) :
      Reorders (.finding rule level message remediation (front ++ (key, v) :: back))
        (.finding rule level message remediation (front ++ (key, w) :: back))
  | inSet {front back : List Exported} {v w : Exported} (h : Reorders v w) :
      Reorders (.set (front ++ v :: back)) (.set (front ++ w :: back))
  | inList {front back : List Exported} {v w : Exported} (h : Reorders v w) :
      Reorders (.list (front ++ v :: back)) (.list (front ++ w :: back))
  | inTuple {front back : List Exported} {v w : Exported} (h : Reorders v w) :
      Reorders (.tuple (front ++ v :: back)) (.tuple (front ++ w :: back))

/-- Any mappings, contexts and sets in the value are put into another order. -/
def Reordered : Exported → Exported → Prop := Relation.ReflTransGen Reorders

/-- At any depth, no two keys of a mapping or of a context have the same text, and no two items of a
    set are converted to values of the same text. -/
inductive IsClear : Exported → Prop where
  | null : IsClear .null
  | bool (b : Bool) : IsClear (.bool b)
  | int (n : Int) : IsClear (.int n)
  | number (x : Decimal.Binary) : IsClear (.number x)
  | text (s : String) : IsClear (.text s)
  | octets (bs : List UInt8) : IsClear (.octets bs)
  | severity (s : Severity) : IsClear (.severity s)
  | path (p : Path) : IsClear (.path p)
  | record (r : Record) : IsClear (.record r)
  | verdict (status : String) (failing : Bool) (threshold : Severity) :
      IsClear (.verdict status failing threshold)
  | finding {rule : String} {level : Severity} {message : String} {remediation : Option String}
      {es : List (Exported × Exported)} (hkeys : (es.map fun e => e.1.keyText).Nodup)
      (h : ∀ e ∈ es, IsClear e.2) : IsClear (.finding rule level message remediation es)
  | list {xs : List Exported} (h : ∀ x ∈ xs, IsClear x) : IsClear (.list xs)
  | tuple {xs : List Exported} (h : ∀ x ∈ xs, IsClear x) : IsClear (.tuple xs)
  | set {xs : List Exported} (htexts : (xs.map fun x => x.toJson.plainText).Nodup)
      (h : ∀ x ∈ xs, IsClear x) : IsClear (.set xs)
  | mapping {es : List (Exported × Exported)} (hkeys : (es.map fun e => e.1.keyText).Nodup)
      (h : ∀ e ∈ es, IsClear e.2) : IsClear (.mapping es)

/-! ### Members and items -/

theorem toMembers_eq_map (es : List (Exported × Exported)) :
    toMembers es = es.map fun e => (e.1.keyText, e.2.toJson) := by
  induction es with
  | nil => rfl
  | cons e es ih =>
    obtain ⟨k, v⟩ := e
    rw [toMembers, ih, List.map_cons]

theorem map_fst_toMembers (es : List (Exported × Exported)) :
    (toMembers es).map Prod.fst = es.map fun e => e.1.keyText := by
  rw [toMembers_eq_map, List.map_map]
  rfl

theorem nameOrder_eq_of_perm {es fs : List (Exported × Exported)} (h : es.Perm fs)
    (hkeys : (es.map fun e => e.1.keyText).Nodup) :
    nameOrder (toMembers fs) = nameOrder (toMembers es) := by
  have hperm : (toMembers es).Perm (toMembers fs) := by
    rw [toMembers_eq_map, toMembers_eq_map]
    exact h.map _
  rw [nameOrder, nameOrder, mergeSort_eq_of_perm hperm (by rwa [map_fst_toMembers])]

theorem textOrder_eq_of_perm {xs ys : List Exported} (h : xs.Perm ys)
    (htexts : (xs.map fun x => x.toJson.plainText).Nodup) :
    textOrder (toItems ys) = textOrder (toItems xs) := by
  have hperm : (toItems xs).Perm (toItems ys) := by
    rw [toItems_eq_map, toItems_eq_map]
    exact h.map _
  have hnodup : ((toItems xs).map plainText).Nodup := by
    rwa [toItems_eq_map, List.map_map]
  rw [textOrder, textOrder, mergeSort_eq_of_perm hperm hnodup]

theorem toItems_replaced {front back : List Exported} {v w : Exported} (h : w.toJson = v.toJson) :
    toItems (front ++ w :: back) = toItems (front ++ v :: back) := by
  simp only [toItems_eq_map, List.map_append, List.map_cons, h]

theorem toMembers_replaced {front back : List (Exported × Exported)} {key v w : Exported}
    (h : w.toJson = v.toJson) :
    toMembers (front ++ (key, w) :: back) = toMembers (front ++ (key, v) :: back) := by
  simp only [toMembers_eq_map, List.map_append, List.map_cons, h]

/-- What holds of all items still does when one of them is replaced by another of which it holds. -/
theorem forall_mem_replaced {α : Type} {p : α → Prop} {front back : List α} {a b : α}
    (h : ∀ x ∈ front ++ a :: back, p x) (hb : p b) : ∀ x ∈ front ++ b :: back, p x := by
  rw [List.forall_mem_append, List.forall_mem_cons] at h ⊢
  exact ⟨h.1, hb, h.2.2⟩

/-! ### Steps -/

/-- A step does not change the JSON of a clear value, and leaves it clear. -/
theorem Reorders.toJson_eq {v w : Exported} (h : Reorders v w) (hclear : v.IsClear) :
    w.toJson = v.toJson ∧ w.IsClear := by
  have hmid : ∀ {α : Type} {front back : List α} {a : α}, a ∈ front ++ a :: back := by simp
  induction h with
  | entries hperm =>
    cases hclear with
    | mapping hkeys hvalues =>
      refine ⟨by rw [toJson, toJson, nameOrder_eq_of_perm hperm hkeys], .mapping ?_ ?_⟩
      · exact (hperm.map _).nodup_iff.mp hkeys
      · exact fun e he => hvalues e (hperm.mem_iff.mpr he)
  | context hperm =>
    cases hclear with
    | finding hkeys hvalues =>
      refine ⟨by rw [toJson, toJson, nameOrder_eq_of_perm hperm hkeys], .finding ?_ ?_⟩
      · exact (hperm.map _).nodup_iff.mp hkeys
      · exact fun e he => hvalues e (hperm.mem_iff.mpr he)
  | items hperm =>
    cases hclear with
    | set htexts hitems =>
      refine ⟨by rw [toJson, toJson, textOrder_eq_of_perm hperm htexts], .set ?_ ?_⟩
      · exact (hperm.map _).nodup_iff.mp htexts
      · exact fun x hx => hitems x (hperm.mem_iff.mpr hx)
  | inEntry _ ih =>
    cases hclear with
    | mapping hkeys hvalues =>
      obtain ⟨hjson, hw⟩ := ih (hvalues _ hmid)
      refine ⟨by rw [toJson, toJson, toMembers_replaced hjson], .mapping ?_ ?_⟩
      · simpa using hkeys
      · exact forall_mem_replaced hvalues hw
  | inContext _ ih =>
    cases hclear with
    | finding hkeys hvalues =>
      obtain ⟨hjson, hw⟩ := ih (hvalues _ hmid)
      refine ⟨by rw [toJson, toJson, toMembers_replaced hjson], .finding ?_ ?_⟩
      · simpa using hkeys
      · exact forall_mem_replaced hvalues hw
  | inSet _ ih =>
    cases hclear with
    | set htexts hitems =>
      -- the items are compared by what they are converted to, which is the same for both
      obtain ⟨hjson, hw⟩ := ih (hitems _ hmid)
      refine ⟨by rw [toJson, toJson, toItems_replaced hjson], .set ?_ ?_⟩
      · simpa [hjson] using htexts
      · exact forall_mem_replaced hitems hw
  | inList _ ih =>
    cases hclear with
    | list hitems =>
      obtain ⟨hjson, hw⟩ := ih (hitems _ hmid)
      exact ⟨by rw [toJson, toJson, toItems_replaced hjson], .list (forall_mem_replaced hitems hw)⟩
  | inTuple _ ih =>
    cases hclear with
    | tuple hitems =>
      obtain ⟨hjson, hw⟩ := ih (hitems _ hmid)
      exact ⟨by rw [toJson, toJson, toItems_replaced hjson], .tuple (forall_mem_replaced hitems hw)⟩

theorem Reordered.toJson_eq {v w : Exported} (h : Reordered v w) (hclear : v.IsClear) :
    w.toJson = v.toJson ∧ w.IsClear := by
  induction h with
  | refl => exact ⟨rfl, hclear⟩
  | tail _ hstep ih =>
    obtain ⟨hjson, hmid⟩ := ih
    obtain ⟨hjson', hw⟩ := hstep.toJson_eq hmid
    exact ⟨hjson'.trans hjson, hw⟩

/-! ### What comes out -/

/-- Members of which the values are ordered are ordered when they are put into the order of names. -/
theorem isOrdered_nameOrder {ms : List (String × Json)} (h : ∀ m ∈ ms, IsOrdered m.2) :
    IsOrdered (.object (nameOrder ms)) := by
  refine .object (Members.pairwise_names_ofList (Json.pairwise_mergeSort Prod.fst ms)) ?_
  intro m hm
  exact h m ((List.mergeSort_perm _ _).mem_iff.mp (Members.mem_ofList hm))

theorem isOrdered_textOrder {xs : List Json} (h : ∀ x ∈ xs, IsOrdered x) :
    IsOrdered (.list (textOrder xs)) :=
  .list fun x hx => h x ((List.mergeSort_perm _ _).mem_iff.mp hx)

theorem isOrdered_optionalText (s : Option String) : IsOrdered (Violation.optionalText s) := by
  cases s with
  | none => exact .null
  | some s => exact .text s

mutual

theorem isOrdered_toJson : (v : Exported) → IsOrdered v.toJson
  | .null => .null
  | .bool b => .bool b
  | .int n => .int n
  | .number x => .number x
  | .text s => .text s
  | .octets _ => .text _
  | .severity _ => .text _
  | .path _ => .text _
  | .record _ =>
    .object (show ["name", "version"].Pairwise (· < ·) by decide) (by simp [IsOrdered.text])
  | .verdict _ _ _ =>
    .object (show ["failing", "status", "threshold"].Pairwise (· < ·) by decide)
      (by simp [IsOrdered.text, IsOrdered.bool])
  | .finding rule level message remediation context => by
    have hcontext := isOrdered_nameOrder (isOrdered_toMembers context)
    rw [toJson]
    refine .object (show ["context", "message", "remediation", "rule_id", "severity"].Pairwise (· < ·)
      by decide) ?_
    simp only [List.forall_mem_cons]
    exact ⟨hcontext, .text _, isOrdered_optionalText _, .text _, .text _, by simp⟩
  | .list xs => .list (isOrdered_toItems xs)
  | .tuple xs => .list (isOrdered_toItems xs)
  | .set xs => isOrdered_textOrder (isOrdered_toItems xs)
  | .mapping es => isOrdered_nameOrder (isOrdered_toMembers es)

theorem isOrdered_toItems : (xs : List Exported) → ∀ x ∈ toItems xs, IsOrdered x
  | [] => by simp [toItems]
  | x :: xs => by
    rw [toItems, List.forall_mem_cons]
    exact ⟨isOrdered_toJson x, isOrdered_toItems xs⟩

theorem isOrdered_toMembers : (es : List (Exported × Exported)) → ∀ m ∈ toMembers es, IsOrdered m.2
  | [] => by simp [toMembers]
  | (k, v) :: es => by
    rw [toMembers, List.forall_mem_cons]
    exact ⟨isOrdered_toJson v, isOrdered_toMembers es⟩

end

theorem ofJsonItems_eq_map (xs : List Json) : ofJsonItems xs = xs.map ofJson := by
  induction xs with
  | nil => rfl
  | cons x xs ih => rw [ofJsonItems, ih, List.map_cons]

theorem toMembers_ofJsonMembers (ms : Members) :
    toMembers (ofJsonMembers ms) = ms.map fun m => (m.1, (ofJson m.2).toJson) := by
  induction ms with
  | nil => rfl
  | cons m ms ih =>
    obtain ⟨k, v⟩ := m
    rw [ofJsonMembers, toMembers, ih, List.map_cons, keyText]

theorem nameOrder_of_pairwise {ms : Members} (h : (ms.map Prod.fst).Pairwise (· < ·)) :
    nameOrder ms = ms := by
  have hsorted : ms.Pairwise fun a b => a.1 ≤ b.1 := (List.pairwise_map.mp h).imp le_of_lt
  rw [nameOrder, mergeSort_eq_self hsorted, Members.ofList_of_nodup (h.imp ne_of_lt)]

/-- An ordered value is converted to itself. -/
theorem toJson_ofJson_of_isOrdered {v : Json} (h : IsOrdered v) : (ofJson v).toJson = v := by
  induction h with
  | list _ ih =>
    rw [ofJson, toJson, toItems_eq_map, ofJsonItems_eq_map, List.map_map]
    exact congrArg Json.list ((List.map_congr_left ih).trans (List.map_id _))
  | @object ms hnames _ ih =>
    have hsame := Members.map_eq_self (f := fun v => (ofJson v).toJson) ih
    rw [ofJson, toJson, toMembers_ofJsonMembers, hsame, nameOrder_of_pairwise hnames]
  | _ => rfl

/-! ### Documents -/

/-- **Documents do not depend on the order of mappings and sets.**  Clear values that differ in this order
    only have the same document for every indent.  Converting what comes out changes nothing more,
    and in every object of it the names are in strictly increasing order. -/
theorem toDocument_reordered :
    (∀ v w : Exported, v.IsClear → Reordered v w →
      ∀ indent, toDocument indent w = toDocument indent v) ∧
    ∀ v : Exported, (ofJson v.toJson).toJson = v.toJson ∧ IsOrdered v.toJson := by
  constructor
  · intro v w hclear h indent
    rw [toDocument, (h.toJson_eq hclear).1, toDocument]
  · intro v
    exact ⟨toJson_ofJson_of_isOrdered (isOrdered_toJson v), isOrdered_toJson v⟩

/-- A set in a set, and keys that are a number and a severity. -/
def tangled : Exported :=
  .mapping [(.severity .warn, .bool true), (.int 10, .set [.text "c", .set [.text "b", .text "a"]])]

/-- The same in the order in which it is shown. -/
def untangled : Exported :=
  .mapping [(.int 10, .set [.set [.text "a", .text "b"], .text "c"]), (.severity .warn, .bool true)]

theorem reordered_untangled : Reordered tangled untangled := by
  have hinner : Reorders (.set [.text "b", .text "a"]) (.set [.text "a", .text "b"]) :=
    .items (.swap _ _ _)
  have hset := @Reorders.inSet [.text "c"] [] _ _ hinner
  -- the inner set, then the outer one, then the mapping
  have hfirst := @Reorders.inEntry [(.severity .warn, .bool true)] [] (.int 10) _ _ hset
  have hsecond := @Reorders.inEntry [(.severity .warn, .bool true)] [] (.int 10) _ _
    (.items (.swap (.set [.text "a", .text "b"]) (.text "c") []))
  exact .tail (.tail (.single hfirst) hsecond) (.entries (.swap _ _ _))

theorem isClear_tangled : tangled.IsClear := by
  have hinner : IsClear (.set [.text "b", .text "a"]) := by
    refine .set (by decide) ?_
    simp only [List.forall_mem_cons]
    exact ⟨.text _, .text _, by simp⟩
  have hset : IsClear (.set [.text "c", .set [.text "b", .text "a"]]) := by
    have hinOrder : (toItems [.text "a", .text "b"]).Pairwise fun a b => a.plainText ≤ b.plainText := by
      decide
    have hsorted : toJson (.set [.text "b", .text "a"]) = .list [.text "a", .text "b"] := by
      rw [toJson, textOrder_eq_of_perm (.swap (.text "b") (.text "a") []) (by decide), textOrder,
        mergeSort_eq_self hinOrder]
      rfl
    refine .set ?_ ?_
    · simp only [List.map_cons, List.map_nil, hsorted]
      decide
    · simp only [List.forall_mem_cons]
      exact ⟨.text _, hinner, by simp⟩
  refine .mapping (by decide) ?_
  simp only [List.forall_mem_cons]
  exact ⟨.bool _, hset, by simp⟩

theorem toDocument_reordered_untangled :
    tangled.IsClear ∧ Reordered tangled untangled ∧
    (∀ indent, toDocument indent untangled = toDocument indent tangled) ∧
    (ofJson tangled.toJson).toJson = tangled.toJson ∧ IsOrdered tangled.toJson :=
  ⟨isClear_tangled, reordered_untangled,
    toDocument_reordered.1 tangled untangled isClear_tangled reordered_untangled,
    toDocument_reordered.2 tangled⟩

end MergeGate.Exported
