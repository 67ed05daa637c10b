import MergeGate.Proofs.Evaluation.Totality
import MergeGate.Proofs.Json.RoundTrip

/-
  MergeGate/Proofs/Evaluation/Contexts.lean
  =========================================
  **What violations tell of the values concerned.**  The context of a violation holds texts, nulls, and
  lists of these or of matches, under different names.  So the values of every evaluation are kept by
  the document of a report, whatever the policy and the facts are (`plainContext_evaluate`).
-/

namespace MergeGate.Evaluation

open MergeGate.Json

/-- The context of a violation is data of three levels at most, which may stand `depth` levels deep. -/
def PlainContext (depth : Nat) (v : Violation) : Prop := IsData (depth + 3) (.object v.context)

variable {depth : Nat}

theorem isData_ofText? (s : Option String) : IsData depth (Json.ofText? s) := by
  cases s with
  | none => exact .null
  | some s => exact .text s

theorem isData_texts (ss : List String) : IsData (depth + 1) (.list (ss.map .text)) := by
  apply IsData.list
  intro x hx
  obtain ⟨s, -, rfl⟩ := List.mem_map.mp hx
  exact .text s

theorem isData_match (m : Match) : IsData (depth + 1) m.toJson := by
  apply IsData.object (by simp)
  simp only [List.forall_mem_cons]
  exact ⟨.text _, .text _, by simp⟩

/-- A context of one value. -/
theorem isData_single {name : String} {x : Json} (hx : IsData depth x) :
    IsData (depth + 1) (.object [(name, x)]) := by
  apply IsData.object (by simp)
  rw [List.forall_mem_singleton]
  exact hx

/-- A context of two values. -/
theorem isData_pair {name other : String} {x y : Json} (hne : name ≠ other) (hx : IsData depth x)
    (hy : IsData depth y) : IsData (depth + 1) (.object [(name, x), (other, y)]) := by
  apply IsData.object (by simpa using hne)
  simp only [List.forall_mem_cons]
  exact ⟨hx, hy, by simp⟩

/-! ### Kinds of violations -/

theorem plainContext_policyMissing : PlainContext depth Ruling.policyMissing :=
  .object List.nodup_nil (by simp [Ruling.policyMissing])

theorem plainContext_patternInvalid (source : String) (fault : Pattern.Fault) :
    PlainContext depth (Ruling.patternInvalid source fault) :=
  isData_pair (by decide) (.text _) (.text _)

theorem plainContext_titleMismatch (pattern title : String) :
    PlainContext depth (Ruling.titleMismatch pattern title) :=
  isData_pair (by decide) (.text _) (.text _)

theorem plainContext_filesMissing (paths : List String) :
    PlainContext depth (Ruling.filesMissing paths) :=
  isData_single (isData_texts paths)

theorem plainContext_invalidViolation (r : DenyRule) (e : RangeError) :
    PlainContext depth (r.invalidViolation e) := by
  apply isData_pair (by decide) (.text _)
  cases r.range? with
  | none => exact .null
  | some s => exact .text s

theorem plainContext_absentViolation (severity : Severity) (m : Manifest) :
    PlainContext depth (m.absentViolation severity) :=
  isData_pair (by decide) (isData_ofText? _) (isData_ofText? _)

theorem plainContext_foundViolation (ms : List Match) : PlainContext depth (Denylist.foundViolation ms) := by
  apply isData_single
  apply IsData.list
  intro x hx
  obtain ⟨m, -, rfl⟩ := List.mem_map.mp hx
  exact isData_match m

/-! ### All violations of an evaluation -/

theorem plainContext_of_title {title : String} {pattern? : Option String} {vs : List Violation}
    (h : FindsInTitle title pattern? vs) : ∀ v ∈ vs, PlainContext depth v := by
  cases h with
  | unasked => simp
  | asked hread =>
    intro v hv
    rw [Ruling.ofTitle] at hv
    split at hv
    · cases hv
    · rw [List.mem_singleton.mp hv]
      exact plainContext_titleMismatch _ _

theorem plainContext_of_files (required : List String) (fileExists : String → Bool) :
    ∀ v ∈ Ruling.ofFiles required fileExists, PlainContext depth v := by
  intro v hv
  rw [Ruling.ofFiles] at hv
  split at hv
  · cases hv
  · rw [List.mem_singleton.mp hv]
    exact plainContext_filesMissing _

theorem rejection?_eq_some {raw : String} {v : Violation} (h : Denylist.rejection? raw = some v) :
    ∃ e, v = (DenyRule.parse raw).invalidViolation e := by
  rw [Denylist.rejection?] at h
  split at h
  · cases h
  · split at h
    · cases h
    · exact ⟨_, (Option.some.inj h).symm⟩

theorem plainContext_of_reported {absence : Severity} {raws : List String} {m : Manifest}
    {ms : List Match} : ∀ v ∈ Denylist.reported absence raws m ms, PlainContext depth v := by
  intro v hv
  rw [Denylist.reported] at hv
  split at hv
  · cases hv
  · rw [List.mem_append, List.mem_append, List.mem_filterMap] at hv
    rcases hv with (⟨raw, -, hraw⟩ | habsent) | hfound
    · obtain ⟨e, rfl⟩ := rejection?_eq_some hraw
      exact plainContext_invalidViolation _ e
    · split at habsent
      · cases habsent
      · rw [List.mem_singleton.mp habsent]
        exact plainContext_absentViolation absence m
    · split at hfound
      · rw [List.mem_singleton.mp hfound]
        exact plainContext_foundViolation ms
      · cases hfound

theorem plainContext_of_accounts {absence : Severity} {facts : Facts} {policy : Option Policy}
    {vs : List Violation} (h : Accounts absence facts policy vs) : ∀ v ∈ vs, PlainContext depth v := by
  intro v hv
  cases h with
  | unconfigured =>
    rw [List.mem_singleton.mp hv]
    exact plainContext_policyMissing
  | faulty hsource hfault hown =>
    rw [List.mem_singleton.mp hv]
    exact plainContext_patternInvalid _ _
  | judged htitle hlists =>
    rw [List.mem_append, List.mem_append] at hv
    rcases hv with (htitled | hfile) | hdenied
    · exact plainContext_of_title htitle v htitled
    · exact plainContext_of_files _ _ v hfile
    · exact plainContext_of_reported v hdenied

theorem context_override (os : Overrides) (v : Violation) : (v.override os).context = v.context := by
  unfold Violation.override
  split <;> rfl

/-- The values concerned that an evaluation tells of are data of three levels at most. -/
theorem plainContext_evaluate {absence : Severity} {policy : Option Policy} {facts : Facts} {e : Evaluation}
    (h : evaluate absence policy facts = .ok e) (depth : Nat) :
    ∀ v ∈ e.violations, PlainContext depth v := by
  rcases evaluate_cases absence policy facts with ⟨cause, herror, -⟩ | ⟨e', hok, vs, haccounts, hviolations, -⟩
  · cases h.symm.trans herror
  · cases h.symm.trans hok
    intro v hv
    rw [hviolations, override] at hv
    obtain ⟨w, hw, rfl⟩ := List.mem_map.mp hv
    rw [PlainContext, context_override]
    exact plainContext_of_accounts haccounts w hw

end MergeGate.Evaluation
