import MergeGate.Note

/-
  MergeGate/Manifest/Basic.lean
  =============================
  **Lock manifests.**  A lock manifest lists the packages a project resolves, each with its
  version; a package may occur at several versions.  What came of reading one is a `Manifest`:
  the records, or the reason why there are none.
-/

namespace MergeGate

/-- A package at a version. -/
structure Record where
  name : String
  version : String
  deriving DecidableEq, Repr, Inhabited

namespace Record

/-- A record as reports show it. -/
def text (r : Record) : String := r.name ++ "@" ++ r.version

def toJson (r : Record) : Json := .object [("name", .text r.name), ("version", .text r.version)]

/-- The order of records: by name, then by version, both by code points. -/
def le (a b : Record) : Bool :=
  if a.name = b.name then decide (a.version ≤ b.version) else decide (a.name ≤ b.name)

/-- Records in order; equal ones stay as they are. -/
def sort (rs : List Record) : List Record := rs.mergeSort le

/-- Each record once, at its first place; `seen` are those that came before. -/
def distinctFrom (seen : List Record) : List Record → List Record
  | [] => []
  | r :: rs => if seen.contains r then distinctFrom seen rs else r :: distinctFrom (r :: seen) rs

/-- Each record once, at its first place. -/
def distinct (rs : List Record) : List Record := distinctFrom [] rs

theorem mem_distinctFrom {r : Record} {seen rs : List Record} :
    r ∈ distinctFrom seen rs ↔ r ∈ rs ∧ r ∉ seen := by
  induction rs generalizing seen with
  | nil => simp [distinctFrom]
  | cons x xs ih =>
    by_cases hx : seen.contains x = true
    · have hm : x ∈ seen := by simpa using hx
      simp only [distinctFrom, hx, if_true, ih, List.mem_cons]
      constructor
      · exact fun h => ⟨.inr h.1, h.2⟩
      · rintro ⟨rfl | h, hn⟩
        · exact absurd hm hn
        · exact ⟨h, hn⟩
    · have hm : x ∉ seen := by simpa using hx
      simp only [distinctFrom, hx, Bool.false_eq_true, if_false, List.mem_cons, ih, not_or]
      constructor
      · rintro (rfl | ⟨h, _, hn⟩)
        · exact ⟨.inl rfl, hm⟩
        · exact ⟨.inr h, hn⟩
      · rintro ⟨rfl | h, hn⟩
        · exact .inl rfl
        · by_cases hr : r = x
          · exact .inl hr
          · exact .inr ⟨h, hr, hn⟩

/-- Dropping repetitions loses no record and adds none. -/
theorem mem_distinct {r : Record} {rs : List Record} : r ∈ distinct rs ↔ r ∈ rs := by
  simp [distinct, mem_distinctFrom]

end Record

/-- The table of a lock manifest that its records come from. -/
inductive Schema where
  | packages
  | dependencies
  deriving DecidableEq, Repr

/-- The name of a table. -/
def Schema.label : Schema → String
  | .packages => "packages"
  | .dependencies => "dependencies"

/-- What came of reading a lock manifest; `source` is the name it is known by. -/
inductive Manifest where
  | missing (source : Option String)
  | invalid (error : Option String) (source : Option String)
  | available (schema : Option Schema) (records : List Record) (source : Option String)
  deriving DecidableEq, Repr

namespace Manifest

/-- The name a manifest is known by. -/
def source : Manifest → Option String
  | .missing s => s
  | .invalid _ s => s
  | .available _ _ s => s

/-- Whether there is a list of records. -/
def isAvailable : Manifest → Bool
  | .available .. => true
  | _ => false

/-- The word for the reason why there is no list of records. -/
def absence? : Manifest → Option String
  | .missing _ => some "missing"
  | .invalid .. => some "invalid"
  | .available .. => none

/-- The records; none if there is no list of them. -/
def records : Manifest → List Record
  | .available _ rs _ => rs
  | _ => []

/-- The table that the records come from. -/
def schema? : Manifest → Option Schema
  | .available s _ _ => s
  | _ => none

/-- What is wrong with an invalid manifest. -/
def error? : Manifest → Option String
  | .invalid e _ => e
  | _ => none

end Manifest

end MergeGate
