import Mathlib.Logic.Relation
import MergeGate.Proofs.Manifest.Listing

/-
  MergeGate/Proofs/Manifest/Walk.lean
  ===================================
  **Walking a dependency tree with a stack.**  The records of a tree are given in the order of the
  document, every entry before those below it (`Traverses`).  An entry that is no object gives
  nothing, and neither does anything below it; an entry that is an object may give no record of its
  own, and still the tree below it is walked.

  The walk itself keeps the entries that are pending on a stack, whose end is its top (`Walk`).  One
  turn takes the entry on the top off and puts the entries below it on, the last one first
  (`Walk.Turn`).  The stack grows on the way, but the number of values on it goes down with every
  turn; and what has been given, together with the traversal of the whole stack from its top on,
  stays the same (`Walk.Turn.outcome_eq`).  So every walk ends, and it ends with the traversal.  The
  main statement is `treeRecords_traverses`.
-/

namespace MergeGate

/-! ### The traversal by recursion -/

/-- What an object gives of its own under a name: a record, if the name is not empty and there is a
    version that is a text and not empty. -/
inductive Gives (name : String) (ms : Json.Members) : List Record → Prop where
  | record {version : String} (hname : name ≠ "") (hversion : version ≠ "")
      (hmember : ms.get? "version" = some (.text version)) : Gives name ms [⟨name, version⟩]
  | nothing (h : name = "" ∨ ∀ version, ms.get? "version" = some (.text version) → version = "") :
      Gives name ms []

/-- The tree below an object: its member for it, if that is an object. -/
inductive Below (ms : Json.Members) : Json.Members → Prop where
  | tree {es : Json.Members} (h : ms.get? "dependencies" = some (.object es)) : Below ms es
  | nothing (h : ∀ es, ms.get? "dependencies" ≠ some (.object es)) : Below ms []

/-- The records of a tree in the order of the document, every entry before those below it. -/
inductive Traverses : Json.Members → List Record → Prop where
  | nil : Traverses [] []
  | scalar {name : String} {entry : Json} {es : Json.Members} {rest : List Record}
      (h : ∀ ms, entry ≠ .object ms) (hrest : Traverses es rest) :
      Traverses ((name, entry) :: es) rest
  | object {name : String} {ms es below : Json.Members} {own inner rest : List Record}
      (hown : Gives name ms own) (hbelow : Below ms below) (hinner : Traverses below inner)
      (hrest : Traverses es rest) :
      Traverses ((name, .object ms) :: es) (own ++ inner ++ rest)

theorem Json.filledText?_eq_some_iff {v : Json} {s : String} : v.filledText? = some s ↔ v = .text s ∧ s ≠ "" := by
  cases v with
  | text t =>
    rw [Json.filledText?, Json.text.injEq]
    by_cases ht : t = ""
    · rw [if_pos ht]
      refine iff_of_false nofun ?_
      rintro ⟨rfl, hne⟩
      exact hne ht
    · rw [if_neg ht, Option.some.injEq]
      constructor
      · rintro rfl
        exact ⟨rfl, ht⟩
      · exact And.left
  | _ => exact iff_of_false nofun fun h => nomatch h.1

theorem recordOf?_eq_some_iff {name : String} {entry : Json} {r : Record} :
    recordOf? name entry = some r ↔
      entry.get? "version" = some (.text r.version) ∧ r.version ≠ "" ∧ r.name = name ∧ name ≠ "" := by
  unfold recordOf?
  constructor
  · intro h
    split at h
    · rename_i version hversion
      obtain ⟨v, hmember, hfilled⟩ := Option.bind_eq_some_iff.mp hversion
      obtain ⟨rfl, hne⟩ := Json.filledText?_eq_some_iff.mp hfilled
      split at h
      · cases h
      · rename_i hname
        cases h
        exact ⟨hmember, hne, rfl, hname⟩
    · cases h
  · rintro ⟨hmember, hversion, rfl, hname⟩
    rw [hmember, Option.bind_some, Json.filledText?_eq_some_iff.mpr ⟨rfl, hversion⟩]
    exact if_neg hname

theorem gives_iff (name : String) (ms : Json.Members) (rs : List Record) :
    Gives name ms rs ↔ rs = (recordOf? name (.object ms)).toList := by
  have hrecord : ∀ version, name ≠ "" → version ≠ "" → ms.get? "version" = some (.text version) →
      recordOf? name (.object ms) = some ⟨name, version⟩ :=
    fun version hname hversion hmember => recordOf?_eq_some_iff.mpr ⟨hmember, hversion, rfl, hname⟩
  constructor
  · rintro (⟨hname, hversion, hmember⟩ | ⟨hnone⟩)
    · rw [hrecord _ hname hversion hmember]
      rfl
    · cases hgiven : recordOf? name (.object ms) with
      | none => rfl
      | some r =>
        obtain ⟨hmember, hversion, -, hname⟩ := recordOf?_eq_some_iff.mp hgiven
        rcases hnone with hempty | hempty
        · exact absurd hempty hname
        · exact absurd (hempty r.version hmember) hversion
  · rintro rfl
    cases hgiven : recordOf? name (.object ms) with
    | none =>
      refine .nothing (or_iff_not_imp_left.mpr fun hname version hmember => ?_)
      by_contra hversion
      cases hgiven.symm.trans (hrecord version hname hversion hmember)
    | some r =>
      obtain ⟨hmember, hversion, rfl, hname⟩ := recordOf?_eq_some_iff.mp hgiven
      exact .record hname hversion hmember

theorem below_iff (ms es : Json.Members) : Below ms es ↔ es = nested (.object ms) := by
  have hget : (Json.object ms).get? "dependencies" = ms.get? "dependencies" := rfl
  unfold nested
  rw [hget]
  constructor
  · rintro (⟨h⟩ | ⟨h⟩)
    · rw [h]
    · split
      · rename_i es hes
        exact absurd hes (h es)
      · rfl
  · rintro rfl
    split
    · rename_i es hes
      exact .tree hes
    · rename_i hno
      exact .nothing fun es hes => hno es hes

theorem entryRecords_of_not_object {entry : Json} (h : ∀ ms, entry ≠ .object ms) (name : String) :
    Tree.entryRecords name entry = [] := by
  cases entry with
  | object ms => exact absurd rfl (h ms)
  | _ => simp [Tree.entryRecords]

theorem Traverses.eq_preorder {es : Json.Members} {rs : List Record} (h : Traverses es rs) :
    rs = Tree.preorder es := by
  induction h with
  | nil => simp [Tree.preorder]
  | scalar hentry _ ihrest =>
    rw [Tree.preorder, entryRecords_of_not_object hentry, ← ihrest, List.nil_append]
  | object hown hbelow _ _ ihinner ihrest =>
    rw [Tree.preorder, Tree.entryRecords_eq, ← (gives_iff _ _ _).mp hown,
      ← (below_iff _ _).mp hbelow, ← ihinner, ← ihrest]

theorem traverses_preorder (es : Json.Members) : Traverses es (Tree.preorder es) := by
  induction es using treeNodes.induct with
  | case1 =>
    rw [Tree.preorder]
    exact .nil
  | case2 name entry es ihbelow ihrest =>
    rw [Tree.preorder]
    cases entry with
    | object ms =>
      rw [Tree.entryRecords_eq]
      exact .object ((gives_iff _ _ _).mpr rfl) ((below_iff _ _).mpr rfl) ihbelow ihrest
    | _ =>
      rw [entryRecords_of_not_object (by simp), List.nil_append]
      exact .scalar (by simp) ihrest

theorem traverses_iff (es : Json.Members) (rs : List Record) :
    Traverses es rs ↔ rs = Tree.preorder es :=
  ⟨Traverses.eq_preorder, fun h => h ▸ traverses_preorder es⟩

/-! ### The walk with a stack -/

/-- A walk on its way: the entries that are pending, the next one at the end, and the records given
    so far. -/
structure Walk where
  stack : Json.Members
  given : List Record

namespace Walk

/-- A walk that begins: all entries of a table are pending, the first one on top. -/
def start (table : Json.Members) : Walk := ⟨table.reverse, []⟩

/-- One turn: the entry on top is taken off, its record is given, if it has one, and the entries below
    it are put on top, the first one last. -/
inductive Turn : Walk → Walk → Prop where
  | take (stack : Json.Members) (name : String) (entry : Json) (given : List Record) :
      Turn ⟨stack ++ [(name, entry)], given⟩
        ⟨stack ++ (nested entry).reverse, given ++ (recordOf? name entry).toList⟩

/-- What a walk comes to: what was given, and the traversal of all that is pending. -/
def outcome (w : Walk) : List Record := w.given ++ Tree.preorder w.stack.reverse

theorem exists_turn_iff (w : Walk) : (∃ w', Turn w w') ↔ w.stack ≠ [] := by
  constructor
  · rintro ⟨-, ⟨stack, name, entry, given⟩⟩
    simp
  · intro hne
    obtain ⟨stack, given⟩ := w
    obtain ⟨front, ⟨name, entry⟩, rfl⟩ := (List.eq_nil_or_concat' stack).resolve_left hne
    exact ⟨_, .take front name entry given⟩

/-- A turn is one step of `walk`, whose pending entries begin with the next one. -/
theorem Turn.walk_eq {w w' : Walk} (h : Turn w w') (fuel : Nat) :
    w.given ++ walk (fuel + 1) w.stack.reverse = w'.given ++ walk fuel w'.stack.reverse := by
  obtain ⟨stack, name, entry, given⟩ := h
  rw [List.reverse_concat, walk, List.reverse_append, List.reverse_reverse, List.append_assoc]

/-- No turn changes what the walk comes to. -/
theorem Turn.outcome_eq {w w' : Walk} (h : Turn w w') : w'.outcome = w.outcome := by
  obtain ⟨stack, name, entry, given⟩ := h
  rw [outcome, outcome, List.reverse_concat, Tree.preorder, Tree.entryRecords_eq, List.reverse_append,
    List.reverse_reverse, Tree.preorder_append]
  simp only [List.append_assoc]

theorem sizeMembers_reverse (es : Json.Members) :
    Json.sizeMembers es.reverse = Json.sizeMembers es := by
  induction es with
  | nil => rfl
  | cons e es ih =>
    obtain ⟨name, entry⟩ := e
    simp only [List.reverse_cons, Json.sizeMembers_append, ih, Json.sizeMembers]
    omega

/-- Every turn leaves fewer values on the stack, also where it leaves more entries. -/
theorem Turn.size_lt {w w' : Walk} (h : Turn w w') :
    Json.sizeMembers w'.stack < Json.sizeMembers w.stack := by
  obtain ⟨stack, name, entry, given⟩ := h
  have hnested := sizeMembers_nested_lt entry
  simp only [Json.sizeMembers_append, sizeMembers_reverse, Json.sizeMembers]
  omega

theorem wellFounded_turn : WellFounded fun w' w : Walk => Turn w w' :=
  Subrelation.wf (fun h => Turn.size_lt h)
    (InvImage.wf (fun w : Walk => Json.sizeMembers w.stack) Nat.lt_wfRel.wf)

/-- Wherever a walk stands, it comes to its outcome. -/
theorem reaches_outcome (w : Walk) : Relation.ReflTransGen Turn w ⟨[], w.outcome⟩ := by
  induction w using wellFounded_turn.induction with
  | _ w ih =>
    obtain ⟨stack, given⟩ := w
    by_cases hstack : stack = []
    · subst hstack
      have hdone : (⟨[], given⟩ : Walk).outcome = given := by simp [outcome, Tree.preorder]
      rw [hdone]
    · obtain ⟨w', hturn⟩ := (exists_turn_iff ⟨stack, given⟩).mpr hstack
      rw [← hturn.outcome_eq]
      exact .head hturn (ih w' hturn)

theorem outcome_eq_of_run {w w' : Walk} (h : Relation.ReflTransGen Turn w w') :
    w'.outcome = w.outcome := by
  induction h with
  | refl => rfl
  | tail _ hturn ih => exact hturn.outcome_eq.trans ih

theorem outcome_start (table : Json.Members) : (start table).outcome = Tree.preorder table := by
  simp [start, outcome]

end Walk

/-- **The walk with a stack is the traversal by recursion.**  For every table:

    1. its records are the one list that traverses it;
    2. no more work than is provided for would add anything to them;
    3. each turn of the walk with a stack is a step of the walk that gives the records;
    4. it cannot go on for ever; wherever it stands it has given the first of these records, and it
       either can take a turn or has come to the end of them;
    5. and it does come there. -/
theorem treeRecords_traverses (table : Json.Members) :
    (∀ rs, Traverses table rs ↔ rs = treeRecords table) ∧
    (∀ fuel, Json.sizeMembers table < fuel → walk fuel table = treeRecords table) ∧
    (∀ w w', Walk.Turn w w' → ∀ fuel,
      w.given ++ walk (fuel + 1) w.stack.reverse = w'.given ++ walk fuel w'.stack.reverse) ∧
    ((WellFounded fun w' w : Walk => Walk.Turn w w') ∧
      ∀ w, Relation.ReflTransGen Walk.Turn (Walk.start table) w →
        w.given <+: treeRecords table ∧
          ((∃ w', Walk.Turn w w') ∨ w = ⟨[], treeRecords table⟩)) ∧
    Relation.ReflTransGen Walk.Turn (Walk.start table) ⟨[], treeRecords table⟩ := by
  rw [treeRecords_eq_preorder]
  refine ⟨traverses_iff table, fun fuel => walk_eq_preorder, fun w w' => Walk.Turn.walk_eq,
    ⟨Walk.wellFounded_turn, ?_⟩, ?_⟩
  · intro w hrun
    have houtcome : w.outcome = Tree.preorder table :=
      (Walk.outcome_eq_of_run hrun).trans (Walk.outcome_start table)
    refine ⟨houtcome ▸ List.prefix_append _ _, ?_⟩
    obtain ⟨stack, given⟩ := w
    by_cases hstack : stack = []
    · subst hstack
      right
      rw [← houtcome, Walk.outcome]
      simp [Tree.preorder]
    · exact .inl ((Walk.exists_turn_iff _).mpr hstack)
  · rw [← Walk.outcome_start]
    exact Walk.reaches_outcome _

end MergeGate
