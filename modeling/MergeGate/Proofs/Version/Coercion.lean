import MergeGate.Proofs.Version.Complete
import MergeGate.Proofs.Version.Rows

/-
  MergeGate/Proofs/Version/Coercion.lean
  ======================================
  **The version that a text stands for.**  A text without what may surround a version is either the
  text of a complete version whose numbers are short, which is the version it stands for, or it
  stands for the version that its rows of digits make, and for none only if all its rows are too
  long (`coerce?_cases`).  What comes of a text is itself complete and short, so writing it and
  reading the writing gives it back, whatever surrounds it (`coerce?_characterized`).
-/

namespace MergeGate.Version

open MergeGate.Text

/-- A version whose numbers, also those among its pre-release identifiers, have at most `maxDigits`
    digits. -/
def IsSmall (v : Version) : Prop := (∀ n ∈ v.numbers, n < numberCap) ∧ AreShort v.pre

/-- A text is that of a small complete version. -/
def Writes (cs : List Char) (v : Version) : Prop := v.IsComplete ∧ v.IsSmall ∧ cs = v.text

/-! ### What surrounds a version -/

theorem isBlank_of_isSign {c : Char} (h : isSign c = true) : isBlank c = false := by
  simp only [isSign, Bool.or_eq_true, decide_eq_true_eq] at h
  rcases h with rfl | rfl <;> decide

/-- No signs are taken away where a text begins with something else. -/
theorem dropWhile_isSign {cs : List Char} (h : ∀ c ∈ cs.head?, isSign c = false) :
    cs.dropWhile isSign = cs := by
  cases cs with
  | nil => rfl
  | cons c cs => exact List.dropWhile_cons_of_neg (Bool.not_eq_true _ ▸ h c rfl)

section Surrounded

variable {g signs g' t h : List Char} (hg : Gap g) (hsigns : ∀ c ∈ signs, isSign c = true)
  (hg' : Gap g') (hh : Gap h)

include hg hsigns hg' hh

/-- Gaps and signs around a text that has neither at its front, nor a blank at its end, are all
    that is taken away. -/
theorem bare_append (hne : t ≠ []) (hfirst : ∀ c ∈ t.head?, isBlank c = false ∧ isSign c = false)
    (hlast : ∀ c ∈ t.getLast?, isBlank c = false) :
    bare (g ++ (signs ++ (g' ++ (t ++ h)))) = t := by
  have hplain : ∀ {front}, Gap front → trim (front ++ t) = t := by
    intro front hfront
    have htrim := trim_append hfront Gap.nil (fun c hc => (hfirst c hc).1) hlast
    rwa [List.append_nil] at htrim
  cases signs with
  | nil =>
    -- without signs the two gaps in front are one
    have htrim : trim (g ++ ([] ++ (g' ++ (t ++ h)))) = t := by
      rw [List.nil_append, ← List.append_assoc, ← List.append_assoc]
      exact trim_append (hg.append hg') hh (fun c hc => (hfirst c hc).1) hlast
    rw [bare, htrim, dropWhile_isSign fun c hc => (hfirst c hc).2]
    exact hplain Gap.nil
  | cons s signs =>
    have htrim : trim (g ++ ((s :: signs) ++ (g' ++ (t ++ h)))) = (s :: signs) ++ (g' ++ t) := by
      have hassoc : g ++ ((s :: signs) ++ (g' ++ (t ++ h))) =
          g ++ ((s :: signs) ++ (g' ++ t)) ++ h := by simp
      rw [hassoc]
      apply trim_append hg hh
      · intro c hc
        cases hc
        exact isBlank_of_isSign (hsigns s (by simp))
      · intro c hc
        rw [← List.append_assoc, List.getLast?_append_of_ne_nil _ hne] at hc
        exact hlast c hc
    have hstop : ∀ c ∈ (g' ++ t).head?, isSign c = false := by
      intro c hc
      cases g' with
      | nil => exact (hfirst c hc).2
      | cons b g' =>
        cases hc
        have hblank : isBlank c = true := hg' c (by simp)
        rw [Bool.eq_false_iff]
        intro hsign
        exact absurd (hblank.symm.trans (isBlank_of_isSign hsign)) (by decide)
    rw [bare, htrim, List.dropWhile_append_of_pos hsigns, dropWhile_isSign hstop]
    exact hplain hg'

end Surrounded

/-! ### Complete texts -/

theorem writes_iff {cs : List Char} {v : Version} :
    Writes cs v ↔ read? cs = some v ∧ v.isOversized = false := by
  rw [read?_eq_some_iff, isOversized_eq_false_iff]
  constructor
  · rintro ⟨hcomplete, hsmall, htext⟩
    exact ⟨⟨hcomplete, htext⟩, hsmall⟩
  · rintro ⟨⟨hcomplete, htext⟩, hsmall⟩
    exact ⟨hcomplete, hsmall, htext⟩

/-- A text either is that of a small complete version, or is taken by its rows. -/
theorem coerce?_cases (cs : List Char) :
    (∃ v, Writes (bare cs) v ∧ coerce? cs = some v) ∨
    ((∀ v, ¬ Writes (bare cs) v) ∧ coerce? cs = ofRows? (bare cs)) := by
  cases hread : read? (bare cs) with
  | none =>
    right
    refine ⟨?_, by simp only [coerce?_eq, hread]⟩
    intro v hwrites
    cases hread.symm.trans (writes_iff.mp hwrites).1
  | some v =>
    cases hsize : v.isOversized with
    | false =>
      left
      exact ⟨v, writes_iff.mpr ⟨hread, hsize⟩, coerce?_of_read? hread hsize⟩
    | true =>
      right
      refine ⟨?_, by simp only [coerce?_eq, hread, hsize, if_true]⟩
      intro w hwrites
      obtain ⟨hread', hsize'⟩ := writes_iff.mp hwrites
      cases hread.symm.trans hread'
      cases hsize.symm.trans hsize'

theorem writes_unique {cs : List Char} {v w : Version} (hv : Writes cs v) (hw : Writes cs w) :
    v = w :=
  Option.some.inj ((writes_iff.mp hv).1.symm.trans (writes_iff.mp hw).1)

theorem MakesVersion.isComplete {cs : List Char} {v : Version} (h : MakesVersion cs v) :
    v.IsComplete := by
  obtain ⟨-, -, -⟩ := h
  exact ⟨by simp, by simp⟩

/-- Whatever comes of a text is complete and small. -/
theorem isComplete_of_coerce? {cs : List Char} {v : Version} (h : coerce? cs = some v) :
    v.IsComplete ∧ v.IsSmall := by
  refine ⟨?_, coerce?_numbers_lt h⟩
  rcases coerce?_cases cs with ⟨w, hwrites, hsome⟩ | ⟨-, hrows⟩
  · cases h.symm.trans hsome
    exact hwrites.1
  · exact (ofRows?_eq_some_iff.mp (hrows.symm.trans h)).isComplete

/-- The text of a small complete version stands for that version, whatever surrounds it. -/
theorem coerce?_text {v : Version} (hcomplete : v.IsComplete) (hsmall : v.IsSmall)
    {g signs g' h : List Char} (hg : Gap g) (hsigns : ∀ c ∈ signs, isSign c = true)
    (hg' : Gap g') (hh : Gap h) :
    coerce? (g ++ (signs ++ (g' ++ (v.text ++ h)))) = some v := by
  obtain ⟨c, cs, htext, hc⟩ := v.text_first
  have hplain : ∀ c ∈ v.text, IsPlain c := by
    apply v.text_plain
    · exact fun i hi d hd => .inr ((hcomplete.pre i hi).chars d hd)
    · exact fun i hi d hd => .inr ((hcomplete.build i hi).2 d hd)
  have hbare : bare (g ++ (signs ++ (g' ++ (v.text ++ h)))) = v.text := by
    apply bare_append hg hsigns hg' hh
    · rw [htext]
      exact List.cons_ne_nil _ _
    · intro d hd
      refine ⟨(hplain d (List.mem_of_mem_head? hd)).1, ?_⟩
      rw [htext] at hd
      cases hd
      have hsign := (isPlain_of_isAsciiDigit hc).2.1
      simp only [isSignChar, Bool.or_eq_false_iff, decide_eq_false_iff_not] at hsign
      simp only [isSign, hsign.1.1.2, (isAsciiDigit_apart hc).2.1, decide_false, Bool.or_self]
    · intro d hd
      exact (hplain d (List.mem_of_mem_getLast? hd)).1
  apply coerce?_of_read?
  · rw [hbare]
    exact read?_text hcomplete
  · exact (isOversized_eq_false_iff v).mpr hsmall

/-! ### The result -/

/-- **The version of a text.**  A text whose bare part is that of a small complete version stands
    for this version.  Any other text stands for the version that its rows make, and for none
    exactly if no whole row in it has at most 16 digits.  The text of a version so found stands for
    the same version, with any gaps and signs around it. -/
theorem coerce?_characterized (cs : List Char) :
    maxDigits = 16 ∧ numberCap = 10 ^ 16 ∧
    (∀ v, Writes (bare cs) v → coerce? cs = some v) ∧
    ((∀ v, ¬ Writes (bare cs) v) →
      (∀ v, coerce? cs = some v ↔ MakesVersion (bare cs) v) ∧
      (coerce? cs = none ↔
        ∀ front row rest, StandsIn false (bare cs) front row rest → maxDigits < row.length)) ∧
    (∀ v, coerce? cs = some v → ∀ g signs g' h, Gap g → (∀ c ∈ signs, isSign c = true) → Gap g' →
      Gap h → coerce? (g ++ (signs ++ (g' ++ (v.text ++ h)))) = some v) := by
  refine ⟨rfl, by rfl, ?_, ?_, ?_⟩
  · intro v hwrites
    rcases coerce?_cases cs with ⟨w, hwrites', hsome⟩ | ⟨hnone, -⟩
    · rwa [writes_unique hwrites hwrites']
    · exact absurd hwrites (hnone v)
  · intro hnone
    rcases coerce?_cases cs with ⟨w, hwrites, -⟩ | ⟨-, hrows⟩
    · exact absurd hwrites (hnone w)
    · rw [hrows]
      exact ⟨fun v => ofRows?_eq_some_iff, ofRows?_eq_none_iff⟩
  · intro v h g signs g' h' hg hsigns hg' hh
    obtain ⟨hcomplete, hsmall⟩ := isComplete_of_coerce? h
    exact coerce?_text hcomplete hsmall hg hsigns hg' hh

/-- A complete version after a sign is kept with its identifiers, and its text after two signs and a
    gap stands for it again; of a text whose first row is too long the next row is taken. -/
theorem coerce?_characterized_samples :
    coerce? [' ', 'v', '1', '.', '2', '.', '3', '-', 'a', '+', 'b'] =
      some ⟨1, 2, 3, [['a']], [['b']]⟩ ∧
    coerce? (['\t'] ++ (['v', '='] ++ ([' '] ++ ((Version.mk 1 2 3 [['a']] [['b']]).text ++ [' '])))) =
      some ⟨1, 2, 3, [['a']], [['b']]⟩ ∧
    MakesVersion (bare (List.replicate 17 '1' ++ ['.', '2', '.', '3'])) ⟨2, 3, 0, [], []⟩ := by
  have hcomplete : coerce? [' ', 'v', '1', '.', '2', '.', '3', '-', 'a', '+', 'b'] =
      some ⟨1, 2, 3, [['a']], [['b']]⟩ := by decide
  have hrows : coerce? (List.replicate 17 '1' ++ ['.', '2', '.', '3']) =
      some ⟨2, 3, 0, [], []⟩ := by decide
  have hread : read? (bare (List.replicate 17 '1' ++ ['.', '2', '.', '3'])) =
      some ⟨11111111111111111, 2, 3, [], []⟩ := by decide
  have hnone : ∀ v, ¬ Writes (bare (List.replicate 17 '1' ++ ['.', '2', '.', '3'])) v := by
    intro v hwrites
    obtain ⟨hread', hsize⟩ := writes_iff.mp hwrites
    cases hread.symm.trans hread'
    exact absurd hsize (by decide)
  obtain ⟨-, -, -, -, hagain⟩ :=
    coerce?_characterized [' ', 'v', '1', '.', '2', '.', '3', '-', 'a', '+', 'b']
  obtain ⟨-, -, -, hmade, -⟩ :=
    coerce?_characterized (List.replicate 17 '1' ++ ['.', '2', '.', '3'])
  refine ⟨hcomplete, ?_, ((hmade hnone).1 _).mp hrows⟩
  apply hagain _ hcomplete
  · exact gap_singleton (by decide)
  · simp [isSign]
  · exact gap_singleton (by decide)
  · exact gap_singleton (by decide)

end MergeGate.Version
