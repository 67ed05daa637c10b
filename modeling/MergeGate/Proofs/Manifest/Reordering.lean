import MergeGate.Proofs.Json.Reordering
import MergeGate.Proofs.Manifest.Reading

/-
  MergeGate/Proofs/Manifest/Reordering.lean
  =========================================
  **Reordered manifests list the same records.**  Where the members of an object of a lock manifest
  stand in another order, the same table is chosen, and its records are the same in another order
  (`Manifest.alike_of_reordered`).

  Which of two equal records stands first changes with the order, but not that there is one.  The
  records of a table are a list that is permuted by every step, and dropping repetitions of
  permuted lists gives permuted lists (`Record.distinct_perm`).  In the tree a step is either on the way
  to the entries below an entry, which are then permuted, or inside of one of them, or somewhere
  that is not looked at (`Json.Reorders.perm_walked`).
-/

namespace MergeGate

open MergeGate.Json

/-- Repetitions are dropped from permuted lists alike. -/
theorem Record.distinct_perm {rs rs' : List Record} (h : rs.Perm rs') :
    (distinct rs).Perm (distinct rs') := by
  refine (List.perm_ext_iff_of_nodup (nodup_distinctFrom [] rs) (nodup_distinctFrom [] rs')).mpr ?_
  intro r
  exact mem_distinct.trans (h.mem_iff.trans mem_distinct.symm)

theorem Tree.preorder_eq_flatMap (es : List (String × Json)) :
    preorder es = es.flatMap fun e => entryRecords e.1 e.2 := by
  induction es with
  | nil => rfl
  | cons e es ih =>
    obtain ⟨name, entry⟩ := e
    rw [preorder, ih, List.flatMap_cons]

/-- What lies below an entry is the table that it has. -/
theorem preorder_nested (entry : Json) :
    Tree.preorder (nested entry) = ((entry.get? "dependencies").map Tree.tableRecords).getD [] := by
  unfold nested
  split
  · rename_i ms hget
    rw [hget]
    rfl
  · rename_i hno
    cases hget : entry.get? "dependencies" with
    | none => rfl
    | some v =>
      cases v with
      | object ms => exact absurd hget (hno ms)
      | _ => rfl

namespace Json.Reorders

variable {v w : Json}

theorem recordOf?_eq (h : Reorders v w) (name : String) : recordOf? name w = recordOf? name v := by
  rw [recordOf?, h.filledText?_get? "version", recordOf?]

theorem flatRecord?_eq (h : Reorders v w) (path : String) : flatRecord? path w = flatRecord? path v := by
  have hname : flatName path w = flatName path v := by
    rw [flatName, h.filledText?_get? "name", flatName]
  rw [flatRecord?, hname, h.recordOf?_eq, flatRecord?]

/-- A step permutes the records of a tree, and those of an entry and what lies below it. -/
theorem perm_walked (h : Reorders v w) :
    (Tree.tableRecords v).Perm (Tree.tableRecords w) ∧
    ∀ name, (Tree.entryRecords name v).Perm (Tree.entryRecords name w) := by
  induction h with
  | @members ms ns hnames hperm =>
    -- as a table the object is permuted itself; as an entry it is only looked up in
    constructor
    · simp only [Tree.tableRecords, Tree.preorder_eq_flatMap]
      exact hperm.flatMap_right _
    · intro name
      have hget : (Json.object ns).get? "dependencies" = (Json.object ms).get? "dependencies" :=
        Members.get?_of_perm hnames hperm.symm _
      rw [Tree.entryRecords_eq, Tree.entryRecords_eq, preorder_nested, preorder_nested, hget,
        (Reorders.members hnames hperm).recordOf?_eq]
  | @member front back k x y hxy ih =>
    obtain ⟨htable, hentry⟩ := ih
    constructor
    · simp only [Tree.tableRecords, Tree.preorder_append, Tree.preorder]
      exact ((hentry k).append_right _).append_left _
    · intro name
      rw [Tree.entryRecords_eq, Tree.entryRecords_eq, preorder_nested, preorder_nested,
        (Reorders.member hxy).recordOf?_eq]
      refine List.Perm.append_left _ ?_
      -- the table below is as it was, or it is where the step was made
      rcases Members.get?_replaced front back k x y "dependencies" with hsame | ⟨hx, hy⟩
      · rw [Json.get?, Json.get?, hsame]
      · rw [Json.get?, Json.get?, hx, hy]
        exact htable
  | item hxy ih => exact ⟨.nil, fun name => .nil⟩

theorem perm_recordsOf {es fs : Members} (h : Reorders (.object es) (.object fs)) (schema : Schema) :
    (Manifest.recordsOf schema es).Perm (Manifest.recordsOf schema fs) := by
  cases schema with
  | packages =>
    cases h with
    | members hnames hperm => exact hperm.filterMap _
    | member hxy =>
      simp only [Manifest.recordsOf, flatRecords, List.filterMap_append, List.filterMap_cons,
        hxy.flatRecord?_eq]
      exact .refl _
  | dependencies =>
    rw [Manifest.recordsOf, Manifest.recordsOf, treeRecords_eq_preorder, treeRecords_eq_preorder]
    exact h.perm_walked.1

end Json.Reorders

namespace Manifest

/-- Two manifests list the same records of the same table, or neither lists any. -/
inductive Alike : Manifest → Manifest → Prop where
  | absent {m m' : Manifest} (h : m.isAvailable = false) (h' : m'.isAvailable = false) : Alike m m'
  | listed {schema : Option Schema} {rs rs' : List Record} {source : Option String}
      (h : rs.Perm rs') : Alike (.available schema rs source) (.available schema rs' source)

theorem Alike.trans {l m n : Manifest} (h : Alike l m) (h' : Alike m n) : Alike l n := by
  cases h with
  | absent hl hm =>
    cases h' with
    | absent _ hn => exact .absent hl hn
    | listed => cases hm
  | listed hrs =>
    cases h' with
    | absent hm _ => cases hm
    | listed hrs' => exact .listed (hrs.trans hrs')

/-- A table of a root is still one after a step, with the same records. -/
theorem exists_isTable {root root' table : Members} {schema : Schema}
    (h : Reorders (.object root) (.object root')) (htable : IsTable root schema table) :
    ∃ table', IsTable root' schema table' ∧ (recordsOf schema table).Perm (recordsOf schema table') := by
  obtain ⟨hne, hget⟩ := htable
  rcases h.get?_cases schema.label with hsame | ⟨x, y, hx, hy, hxy⟩
  · exact ⟨table, ⟨hne, hsame.trans hget⟩, .refl _⟩
  · cases hget.symm.trans hx
    obtain ⟨table', rfl, hlength⟩ := hxy.exists_members
    refine ⟨table', ⟨?_, hy⟩, hxy.perm_recordsOf schema⟩
    rw [← List.length_pos_iff] at hne ⊢
    omega

theorem table?_rel {root root' : Members} (h : Reorders (.object root) (.object root'))
    (schema : Schema) :
    Option.Rel (fun es fs => (recordsOf schema es).Perm (recordsOf schema fs))
      (table? root schema) (table? root' schema) := by
  cases htable : table? root schema with
  | some table =>
    obtain ⟨table', htable', hperm⟩ := exists_isTable h (table?_eq_some_iff.mp htable)
    rw [table?_eq_some_iff.mpr htable']
    exact .some hperm
  | none =>
    cases htable' : table? root' schema with
    | none => exact .none
    | some table' =>
      obtain ⟨table, hback, -⟩ := exists_isTable h.symm (table?_eq_some_iff.mp htable')
      exact absurd ⟨table, hback⟩ (table?_eq_none_iff.mp htable)

theorem alike_of_reorders {root root' : Members} (h : Reorders (.object root) (.object root'))
    (source : Option String) : Alike (ofRoot root source) (ofRoot root' source) := by
  have hpackages := table?_rel h .packages
  have hdependencies := table?_rel h .dependencies
  unfold ofRoot
  generalize table? root .packages = packages, table? root' .packages = packages' at hpackages ⊢
  generalize table? root .dependencies = tree, table? root' .dependencies = tree' at hdependencies ⊢
  cases hpackages with
  | some hperm => exact .listed (Record.distinct_perm hperm)
  | none =>
    cases hdependencies with
    | some hperm => exact .listed (Record.distinct_perm hperm)
    | none => exact .listed (.refl _)

theorem alike_of_reordered {root root' : Members} (h : Reordered (.object root) (.object root'))
    (source : Option String) : Alike (ofRoot root source) (ofRoot root' source) := by
  -- along the steps, each of which leads from an object to an object
  generalize hv : Json.object root' = v at h
  induction h generalizing root' with
  | refl =>
    cases hv
    obtain ⟨schema, rs, havailable⟩ := ofRoot_available root source
    rw [havailable]
    exact .listed (.refl _)
  | tail _ hstep ih =>
    cases hv
    obtain ⟨mid, rfl, -⟩ := hstep.symm.exists_members
    exact (ih rfl).trans (alike_of_reorders hstep source)

end Manifest

end MergeGate
