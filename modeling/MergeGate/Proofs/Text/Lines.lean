import MergeGate.Text.Lines
import MergeGate.Proofs.Text.Numeral
import MergeGate.Proofs.Text.Words

/-
  MergeGate/Proofs/Text/Lines.lean
  ================================
  **Texts made of lines.**  Lines that are joined and closed by a line feed are the same text as lines
  that each have a line feed at their end (`joinWith_feed`), and the latter can be put together part by
  part.  Trimming such a text at its back loses blanks only, and nothing of a line before it that ends
  without one (`trimBack_append_of_last`).
-/

namespace MergeGate.Text

/-- Lines with a line feed at the end of each. -/
def ended (ls : List (List Char)) : List Char := ls.flatMap fun l => l ++ ['\n']

theorem ended_cons (l : List Char) (ls : List (List Char)) : ended (l :: ls) = l ++ '\n' :: ended ls := by
  rw [ended, List.flatMap_cons, List.append_assoc]
  rfl

theorem ended_append (ls ms : List (List Char)) : ended (ls ++ ms) = ended ls ++ ended ms :=
  List.flatMap_append

theorem joinWith_feed {ls : List (List Char)} (hne : ls ≠ []) : joinWith ['\n'] ls ++ ['\n'] = ended ls :=
  joinWith_append hne

theorem ended_sections {ss : List (List (List Char))} (hss : ∀ s ∈ ss, s ≠ []) :
    ended (ss.map (joinWith ['\n'])) = ended ss.flatten := by
  induction ss with
  | nil => rfl
  | cons s ss ih =>
    rw [List.forall_mem_cons] at hss
    rw [List.map_cons, ended_cons, ih hss.2, List.flatten_cons, ended_append, ← joinWith_feed hss.1,
      List.append_assoc, List.singleton_append]

/-- Sections of lines, joined in their turn, are all their lines; those without lines leave no trace. -/
theorem joinWith_sections {ss : List (List (List Char))} (hss : ∀ s ∈ ss, joinWith ['\n'] s = [] → s = [])
    (hne : ss.flatten ≠ []) :
    joinWith ['\n'] ((ss.map (joinWith ['\n'])).filter fun t => !t.isEmpty) ++ ['\n'] = ended ss.flatten := by
  have hfilled : (ss.map (joinWith ['\n'])).filter (fun t => !t.isEmpty) =
      (ss.filter fun s => !s.isEmpty).map (joinWith ['\n']) := by
    rw [List.filter_map]
    congr 1
    apply List.filter_congr
    intro s hs
    cases s with
    | nil => rfl
    | cons l ls =>
      have hl : joinWith ['\n'] (l :: ls) ≠ [] := fun hnil => absurd (hss _ hs hnil) (by simp)
      simpa using hl
  rw [← List.flatten_filter_not_isEmpty] at hne ⊢
  have hsome : (ss.filter fun s => !s.isEmpty).map (joinWith ['\n']) ≠ [] := by
    intro hnil
    rw [List.map_eq_nil_iff.mp hnil] at hne
    exact hne rfl
  rw [hfilled, joinWith_feed hsome, ended_sections]
  intro s hs
  simpa using (List.mem_filter.mp hs).2

/-! ### Single lines -/

/-- A text without any line end. -/
def IsOneLine (cs : List Char) : Prop := ∀ c ∈ cs, isLineEnd c = false

instance (cs : List Char) : Decidable (IsOneLine cs) := List.decidableBAll _ cs

@[simp] theorem isOneLine_append {cs ds : List Char} : IsOneLine (cs ++ ds) ↔ IsOneLine cs ∧ IsOneLine ds :=
  List.forall_mem_append

theorem toNat_of_mem_numeral {n : Nat} {c : Char} (h : c ∈ (toString n).toList) : 48 ≤ c.toNat ∧ c.toNat ≤ 57 := by
  have hdigit : isAsciiDigit c = true := isAsciiDigit_of_mem_numeral (by simpa [numeral] using h)
  simpa [isAsciiDigit] using hdigit

theorem isOneLine_numeral (n : Nat) : IsOneLine (toString n).toList := by
  intro c hc
  have hrange := toNat_of_mem_numeral hc
  simp only [isLineEnd, Bool.or_eq_false_iff, Bool.and_eq_false_iff, decide_eq_false_iff_not, beq_eq_false_iff_ne]
  omega

theorem solid_numeral (n : Nat) : Solid (toString n).toList := by
  intro c hc
  have hrange := toNat_of_mem_numeral hc
  simp only [isBlank, Bool.or_eq_false_iff, Bool.and_eq_false_iff, decide_eq_false_iff_not, beq_eq_false_iff_ne]
  omega

theorem isOneLine_intercalate {sep : String} (hsep : IsOneLine sep.toList) {ss : List String}
    (h : ∀ s ∈ ss, IsOneLine s.toList) : IsOneLine (String.intercalate sep ss).toList := by
  induction ss with
  | nil => exact fun c hc => absurd hc List.not_mem_nil
  | cons s ss ih =>
    rw [List.forall_mem_cons] at h
    cases ss with
    | nil => simpa using h.1
    | cons t ss =>
      rw [String.intercalate_cons_cons, String.toList_append, String.toList_append, isOneLine_append, isOneLine_append]
      exact ⟨⟨h.1, hsep⟩, ih h.2⟩

/-! ### Trimmed lines -/

theorem trimBack_append_of_last {t : List Char} (hlast : ∀ c ∈ t.getLast?, isBlank c = false) (cs : List Char) :
    trimBack (t ++ cs) = t ++ trimBack cs := by
  obtain ⟨g, hg, hcs⟩ := exists_trimBack cs
  calc trimBack (t ++ cs) = trimBack (t ++ trimBack cs ++ g) := by rw [List.append_assoc, ← hcs]
    _ = trimBack (t ++ trimBack cs) := trimBack_append hg _
    _ = t ++ trimBack cs := by
      apply trimBack_of_last
      intro c hc
      rw [List.getLast?_append, Option.mem_def, Option.or_eq_some_iff] at hc
      rcases hc with hc | ⟨-, hc⟩
      · exact trimBack_last cs c hc
      · exact hlast c hc

/-- A text that ends with one line feed, and no blank stands before it. -/
def IsClosed (text : List Char) : Prop := ∃ front c, text = front ++ [c, '\n'] ∧ isBlank c = false

/-- Closed by a line feed, a text is made of lines but for the blanks at its end. -/
def HoldsLines (ls : List (List Char)) (text : List Char) : Prop :=
  ∃ kept gap, text = kept ++ ['\n'] ∧ Gap gap ∧ kept ++ gap = ended ls

theorem isClosed_trimBack {cs : List Char} {c : Char} (hc : c ∈ cs) (hsolid : isBlank c = false) :
    IsClosed (trimBack cs ++ ['\n']) := by
  obtain ⟨g, hg, hcs⟩ := exists_trimBack cs
  rcases List.eq_nil_or_concat' (trimBack cs) with hnil | ⟨front, d, hkept⟩
  · rw [hnil, List.nil_append] at hcs
    rw [hg c (hcs ▸ hc)] at hsolid
    cases hsolid
  · refine ⟨front, d, by rw [hkept, List.append_assoc]; rfl, ?_⟩
    exact trimBack_last cs d (by rw [hkept]; simp)

theorem holdsLines_trimBack {ls : List (List Char)} (hne : ls ≠ []) :
    HoldsLines ls (trimBack (joinWith ['\n'] ls) ++ ['\n']) := by
  obtain ⟨g, hg, hkept⟩ := exists_trimBack (joinWith ['\n'] ls)
  refine ⟨_, g ++ ['\n'], rfl, hg.append (gap_singleton rfl), ?_⟩
  rw [← List.append_assoc, ← hkept, joinWith_feed hne]

/-- A line that ends without a blank stays the first of a text that is trimmed. -/
theorem feed_prefix_trimBack {t : List Char} (hlast : ∀ c ∈ t.getLast?, isBlank c = false) (cs : List Char) :
    t ++ ['\n'] <+: trimBack (t ++ '\n' :: cs) ++ ['\n'] := by
  rw [trimBack_append_of_last hlast, List.append_assoc, List.prefix_append_right_inj]
  obtain ⟨g, -, hcs⟩ := exists_trimBack ('\n' :: cs)
  cases hkept : trimBack ('\n' :: cs) with
  | nil => exact List.prefix_rfl
  | cons d kept =>
    rw [hkept, List.cons_append] at hcs
    rw [← (List.cons.inj hcs).1, List.cons_append]
    exact List.prefix_append ['\n'] _

end MergeGate.Text
