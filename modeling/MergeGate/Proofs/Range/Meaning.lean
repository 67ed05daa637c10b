import MergeGate.Proofs.Range.Admission
import MergeGate.Proofs.Range.Reading

/-
  MergeGate/Proofs/Range/Meaning.lean
  ===================================
  **What compiled ranges mean.**  Bounds come from clauses, and clauses come from a text.  The
  grammar of ranges says which clauses a text writes, and `Clause.Admits` says what they admit
  without speaking of bounds.  A range that compiles accepts a version exactly if one of the
  clauses that its text writes admits it.
-/

namespace MergeGate

open MergeGate.Text MergeGate.Version

/-- What a text writes is all that it writes. -/
theorem WritesRange.unique {t : List Char} {cs cs' : List Clause} (h : WritesRange t cs)
    (h' : WritesRange t cs') : cs' = cs := by
  have hread := (readClauses_splitBars_iff t cs).mpr h
  have hread' := (readClauses_splitBars_iff t cs').mpr h'
  exact Except.ok.inj (hread'.symm.trans hread)

/-- A range compiles to the bounds of the clauses that its text writes. -/
theorem Range.parse_eq_ok_iff (s : String) (r : Range) :
    Range.parse s = .ok r ↔ ∃ cs, WritesRange s.toList cs ∧ r = ⟨s, cs.map Clause.bounds⟩ := by
  rw [Range.parse_eq]
  constructor
  · intro h
    split at h
    · cases h
    · rename_i cs hcs
      cases h
      exact ⟨cs, (readClauses_splitBars_iff _ _).mp hcs, rfl⟩
  · rintro ⟨cs, hcs, rfl⟩
    rw [(readClauses_splitBars_iff _ _).mpr hcs]

/-- A range compiles to the same bounds without the blanks around it. -/
theorem Range.parse_trimmed {s : String} {r : Range} (h : Range.parse s = .ok r) :
    Range.parse (trimmed s) = .ok ⟨trimmed s, r.alternatives⟩ := by
  obtain ⟨g, g', hg, hg', hwhole⟩ := exists_trim s.toList
  have hread := readClauses_between hg hg' (trim s.toList)
  rw [← hwhole] at hread
  rw [Range.parse_eq] at h ⊢
  rw [trimmed, String.toList_ofList, ← hread]
  split at h
  · cases h
  · cases h
    rfl

/-- A choice of clauses accepts what one of them admits. -/
theorem Range.accepts_bounds_iff (s : String) (cs : List Clause) (v : Version) :
    Range.accepts ⟨s, cs.map Clause.bounds⟩ v = true ↔ ∃ c ∈ cs, c.Admits v := by
  simp only [Range.accepts, List.any_map, List.any_eq_true, Function.comp_apply,
    Clause.accepts_bounds]

/-- A text satisfies a range that compiles if the text stands for a version that the range
    accepts. -/
theorem satisfies_eq_ok_true_iff {s : String} {r : Range} (h : Range.parse s = .ok r) (t : String) :
    satisfies t (.text s) = .ok true ↔ ∃ v, Version.ofString? t = some v ∧ r.accepts v = true := by
  have hrange : Range.ofJson (.text s) = .ok r := h
  unfold satisfies
  cases Version.ofString? t with
  | none => simp
  | some v => simp [hrange, Except.map]

/-- **Compiled ranges mean what the grammar says.**  The text of a range that compiles writes one
    row of clauses and no other.  The range accepts a version exactly if one of these clauses
    admits it, and the texts that satisfy it are those that stand for such a version. -/
theorem Range.accepts_iff_admits {s : String} {r : Range} (h : Range.parse s = .ok r) :
    ∃ cs, (∀ cs', WritesRange s.toList cs' ↔ cs' = cs) ∧
      (∀ v, r.accepts v = true ↔ ∃ c ∈ cs, c.Admits v) ∧
      ∀ t, satisfies t (.text s) = .ok true ↔
        ∃ v, Version.ofString? t = some v ∧ ∃ c ∈ cs, c.Admits v := by
  obtain ⟨cs, hcs, hr⟩ := (Range.parse_eq_ok_iff s r).mp h
  have hadmits : ∀ v, r.accepts v = true ↔ ∃ c ∈ cs, c.Admits v := by
    intro v
    rw [hr]
    exact Range.accepts_bounds_iff s cs v
  refine ⟨cs, fun cs' => ⟨hcs.unique, fun e => e ▸ hcs⟩, hadmits, ?_⟩
  intro t
  simp only [satisfies_eq_ok_true_iff h, hadmits]

/-- A range of a caret, and of a tilde before a pre-release. -/
theorem Range.accepts_iff_admits_caret_or_tilde :
    ∃ cs, (∀ cs', WritesRange "^1.2 || ~ > 2.0.1-rc".toList cs' ↔ cs' = cs) ∧
      (∀ v, Range.accepts ⟨"^1.2 || ~ > 2.0.1-rc",
          [[⟨.ge, .lowest 1 2 0⟩, ⟨.lt, .lowest 2 0 0⟩],
            [⟨.ge, ⟨2, 0, 1, [['r', 'c']], []⟩⟩, ⟨.lt, .lowest 2 1 0⟩]]⟩ v = true ↔
        ∃ c ∈ cs, c.Admits v) ∧
      ∀ t, satisfies t (.text "^1.2 || ~ > 2.0.1-rc") = .ok true ↔
        ∃ v, Version.ofString? t = some v ∧ ∃ c ∈ cs, c.Admits v :=
  Range.accepts_iff_admits (by rfl)

end MergeGate
