import Mathlib.Data.List.Induction
import MergeGate.Manifest.Extraction
import MergeGate.Proofs.Text.Words

/-
  MergeGate/Proofs/Manifest/InstallPath.lean
  ==========================================
  **Install paths.**  A package below other packages is installed at a path that names them all,
  each with the install mark before it (`installPath`).  As long as no name holds the mark itself,
  the name of the package comes back from the path (`nameOfPath_installPath`), and so do all the
  names: different rows of names have different paths (`installPath_injective`).

  The mark begins with a letter that does not occur in it again, so it cannot stand across the end
  of another mark.
-/

namespace MergeGate

open MergeGate.Text

/-- A name that does not hold the install mark. -/
def IsUnmarked (name : String) : Prop := holds installMark name.toList = false

/-- Where the package is installed that a row of names leads to. -/
def installPath (names : List String) : String :=
  String.ofList (joinWith ['/'] (names.map fun n => installMark ++ n.toList))

/-! ### The last mark -/

theorem dropLead_append (pat cs : List Char) : dropLead pat (pat ++ cs) = some cs := by
  induction pat with
  | nil => rfl
  | cons p pat ih => simp [dropLead, ih]

theorem afterLast_of_not_holds {mark cs : List Char} (h : holds mark cs = false) :
    afterLast mark cs = none := by
  induction cs with
  | nil => rfl
  | cons c cs ih =>
    simp only [holds, Bool.or_eq_false_iff, Option.isSome_eq_false_iff,
      Option.isNone_iff_eq_none] at h
    simp [afterLast, ih h.2, h.1]

theorem afterLast_append {mark cs rest : List Char} (h : afterLast mark cs = some rest)
    (front : List Char) : afterLast mark (front ++ cs) = some rest := by
  induction front with
  | nil => exact h
  | cons c front ih => simp [afterLast, ih]

/-- A pattern is not found before its first character. -/
theorem holds_append_of_not_mem {p : Char} {pat front : List Char} (h : p ∉ front)
    (cs : List Char) : holds (p :: pat) (front ++ cs) = holds (p :: pat) cs := by
  induction front with
  | nil => rfl
  | cons c front ih =>
    obtain ⟨hc, hfront⟩ := not_or.mp fun hmem => h (List.mem_cons.mpr hmem)
    simp [holds, dropLead, hc, ih hfront]

theorem installMark_eq : installMark = 'n' :: "ode_modules/".toList := rfl

/-- What follows the last mark is a name without one. -/
theorem afterLast_installMark {name : List Char} (h : holds installMark name = false)
    (front : List Char) : afterLast installMark (front ++ (installMark ++ name)) = some name := by
  apply afterLast_append
  have hnone : afterLast installMark ("ode_modules/".toList ++ name) = none := by
    apply afterLast_of_not_holds
    rw [installMark_eq] at h ⊢
    rw [holds_append_of_not_mem (by decide), h]
  have hlead : dropLead installMark (installMark ++ name) = some name := dropLead_append _ _
  have hcons : installMark ++ name = 'n' :: ("ode_modules/".toList ++ name) := rfl
  rw [hcons] at hlead ⊢
  rw [afterLast, hnone]
  exact hlead

/-! ### Names and paths -/

/-- The part of a path before its last mark. -/
def pathFront (names : List String) : List Char :=
  if names = [] then [] else (installPath names).toList ++ ['/']

theorem toList_installPath_concat (names : List String) (name : String) :
    (installPath (names ++ [name])).toList = pathFront names ++ (installMark ++ name.toList) := by
  by_cases hnil : names = []
  · subst hnil
    simp [installPath, joinWith, pathFront]
  · have hmap : (names.map fun n => installMark ++ n.toList) ≠ [] := by simpa using hnil
    rw [pathFront, if_neg hnil, installPath, installPath, List.map_append, List.map_singleton,
      joinWith_concat hmap]
    simp

/-- The name of a package comes back from its path. -/
theorem nameOfPath_installPath {name : String} (h : IsUnmarked name) (names : List String) :
    nameOfPath (installPath (names ++ [name])) = name := by
  rw [nameOfPath, toList_installPath_concat, afterLast_installMark h]
  exact String.ofList_toList

theorem installPath_concat_ne_empty (names : List String) (name : String) :
    installPath (names ++ [name]) ≠ "" := by
  intro h
  have hlist := congrArg String.toList h
  rw [toList_installPath_concat, installMark_eq] at hlist
  simp at hlist

/-- Different rows of names have different paths. -/
theorem installPath_injective {names names' : List String} (h : ∀ n ∈ names, IsUnmarked n)
    (h' : ∀ n ∈ names', IsUnmarked n) (hpath : installPath names = installPath names') :
    names = names' := by
  -- from the end: the last name can be read off the path, and what is before it is a path again
  induction names using List.reverseRecOn generalizing names' with
  | nil =>
    rcases List.eq_nil_or_concat' names' with rfl | ⟨rest', name', rfl⟩
    · rfl
    · exact absurd hpath.symm (installPath_concat_ne_empty rest' name')
  | append_singleton rest name ih =>
    rcases List.eq_nil_or_concat' names' with rfl | ⟨rest', name', rfl⟩
    · exact absurd hpath (installPath_concat_ne_empty rest name)
    · have hname : name = name' := by
        rw [← nameOfPath_installPath (h name (by simp)) rest, hpath,
          nameOfPath_installPath (h' name' (by simp))]
      have hfront : pathFront rest = pathFront rest' := by
        have hlist := congrArg String.toList hpath
        rw [toList_installPath_concat, toList_installPath_concat, hname] at hlist
        exact List.append_cancel_right hlist
      have hrest : rest = rest' := by
        unfold pathFront at hfront
        by_cases hnil : rest = []
        · by_cases hnil' : rest' = []
          · rw [hnil, hnil']
          · simp [hnil, hnil'] at hfront
        · by_cases hnil' : rest' = []
          · simp [hnil, hnil'] at hfront
          · rw [if_neg hnil, if_neg hnil'] at hfront
            apply ih (fun n hn => h n (by simp [hn])) (fun n hn => h' n (by simp [hn]))
            exact String.toList_inj.mp (List.append_cancel_right hfront)
      rw [hname, hrest]

end MergeGate
