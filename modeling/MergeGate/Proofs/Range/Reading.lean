import MergeGate.Proofs.Range.Closing

/-
  MergeGate/Proofs/Range/Reading.lean
  ===================================
  **Reading ranges.**  A text is read as a row of clauses exactly if it writes them
  (`readClauses_splitBars_iff`).

  The reader looks for a hyphen between words before it looks for simples.  No row of simples is
  taken for that, since in simples every hyphen has a character other than a blank before it
  (`Tied`).
-/

namespace MergeGate

open MergeGate.Text MergeGate.Version

/-! ### No simples around a hyphen -/

/-- Every hyphen has a character other than a blank directly before it. -/
def Tied (t : List Char) : Prop :=
  ∀ a b, t = a ++ '-' :: b → ∃ a' c, a = a' ++ [c] ∧ isBlank c = false

theorem tied_of_not_mem {t : List Char} (h : '-' ∉ t) : Tied t := by
  rintro a b rfl
  exact absurd (by simp) h

theorem Tied.append {t u : List Char} (ht : Tied t) (hu : Tied u) : Tied (t ++ u) := by
  intro a b hab
  rcases List.append_eq_append_iff.mp hab with ⟨a₂, rfl, ha₂⟩ | ⟨b₁, rfl, hb₁⟩
  · obtain ⟨a', c, rfl, hc⟩ := hu a₂ b ha₂
    exact ⟨t ++ a', c, by simp, hc⟩
  · cases b₁ with
    | nil =>
      obtain ⟨a', c, hnil, -⟩ := hu [] b hb₁.symm
      simp at hnil
    | cons d b₁ =>
      obtain rfl : '-' = d := (List.cons.inj hb₁).1
      exact ht a b₁ rfl

theorem tied_of_gap {g : List Char} (hg : Gap g) : Tied g :=
  tied_of_not_mem fun h => absurd (hg _ h) (by decide)

theorem WritesSign.tied {o : List Char} {s : Sign} (h : WritesSign o s) : Tied o := by
  have hgap : ∀ g, Gap g → '-' ∉ g := fun g hg hmem => absurd (hg _ hmem) (by decide)
  apply tied_of_not_mem
  cases h with
  | atMost hg => simp [hgap _ hg]
  | atLeast hg => simp [hgap _ hg]
  | tildeAbove hg => simp [hgap _ hg]
  | _ => simp

theorem WritesPartial.tied {t : List Char} {p : Partial} (h : WritesPartial t p) : Tied t := by
  obtain ⟨c, ds, rfl, hc⟩ := h.first
  intro a b hab
  rcases List.eq_nil_or_concat' a with rfl | ⟨a', d, rfl⟩
  · exact absurd (List.cons.inj hab).1 hc
  · exact ⟨a', d, rfl, (h.plain d (by rw [hab]; simp)).1⟩

theorem WritesSimple.tied {t : List Char} {s : Sign × Partial} (h : WritesSimple t s) :
    Tied t := by
  obtain ⟨o, g, u, rfl, ho, hg, -, hu⟩ := h
  exact (ho.tied.append (tied_of_gap hg)).append hu.tied

theorem WritesSimples.tied {t : List Char} {ss : List (Sign × Partial)} (h : WritesSimples t ss) :
    Tied t := by
  induction h with
  | one hs => exact hs.tied
  | cons hs hg _ _ ih => exact (hs.tied.append (tied_of_gap hg)).append ih

/-- A hyphen that is a word, but not the first, has a blank before it. -/
theorem not_tied_of_words {cs low high : List Char} (h : words cs = [low, ['-'], high]) :
    ¬ Tied cs := by
  obtain ⟨g, rest, rfl, -, -, -, hopen, hrest⟩ := words_eq_cons h
  obtain ⟨g₁, rest', rfl, hg₁, -, -, -, -⟩ := words_eq_cons hrest
  intro htied
  obtain ⟨a, c, ha, hc⟩ := htied (g ++ low ++ g₁) rest' (by simp)
  rcases List.eq_nil_or_concat' g₁ with rfl | ⟨g₁', d, rfl⟩
  · exact absurd (hopen '-' rfl) (by decide)
  · have hlast : d = c := by
      have hconcat : (g ++ low ++ g₁') ++ [d] = a ++ [c] := by simpa using ha
      exact (List.append_inj' hconcat rfl).2 |> List.singleton_inj.mp
    have hblank : isBlank d = true := hg₁ d (by simp)
    rw [hlast, hc] at hblank
    cases hblank

/-! ### Clauses -/

theorem readEnd?_eq_some_iff (cs : List Char) (p : Partial) :
    readEnd? cs = some p ↔ WritesEnd cs p := by
  have hnot : ∀ u, ¬ WritesPartial ('=' :: u) p := by
    intro u h
    have hplain := (h.plain '=' (by simp)).2.1
    exact absurd hplain (by decide)
  rw [readEnd?_eq]
  unfold dropEquals
  split
  · rename_i u
    rw [Partial.read?_eq_some_iff]
    constructor
    · exact fun h => .inr ⟨u, rfl, h⟩
    · rintro (h | ⟨u', hu, h⟩)
      · exact absurd h (hnot u)
      · rwa [(List.cons.inj hu).2]
  · rename_i hne
    rw [Partial.read?_eq_some_iff]
    constructor
    · exact .inl
    · rintro (h | ⟨u, rfl, -⟩)
      · exact h
      · exact absurd rfl (hne u)

theorem WritesEnd.solid {t : List Char} {p : Partial} (h : WritesEnd t p) : Solid t ∧ t ≠ [] := by
  rcases h with h | ⟨u, rfl, h⟩
  · obtain ⟨c, ds, rfl, -⟩ := h.first
    exact ⟨fun d hd => (h.plain d hd).1, by simp⟩
  · refine ⟨?_, by simp⟩
    intro d hd
    rcases List.mem_cons.mp hd with rfl | hd
    · decide
    · exact (h.plain d hd).1

/-- The three words of a hyphen range, and nothing else, are cut into its ends. -/
theorem words_between {g t g₁ g₂ u h : List Char} {low high : Partial} (hg : Gap g)
    (hlow : WritesEnd t low) (hg₁ : Gap g₁) (hne₁ : g₁ ≠ []) (hg₂ : Gap g₂) (hne₂ : g₂ ≠ [])
    (hhigh : WritesEnd u high) (hh : Gap h) :
    words (g ++ (t ++ (g₁ ++ '-' :: (g₂ ++ (u ++ h))))) = [t, ['-'], u] := by
  have hhyphen : words ('-' :: (g₂ ++ (u ++ h))) = ['-'] :: words (g₂ ++ (u ++ h)) := by
    refine words_append (w := ['-']) ?_ (by simp) (hg₂.open_append hne₂ _)
    simp only [Solid, List.mem_singleton, forall_eq]
    decide
  have hopen : Open h := by
    cases h with
    | nil => exact open_nil
    | cons c h => simpa using hh.open_append (by simp) []
  rw [words_gap_append hg, words_append hlow.solid.1 hlow.solid.2 (hg₁.open_append hne₁ _),
    words_gap_append hg₁, hhyphen, words_gap_append hg₂,
    words_append hhigh.solid.1 hhigh.solid.2 hopen, words_gap hh]

theorem Clause.read_sound {cs : List Char} {c : Clause} (h : Clause.read cs = .ok c) :
    WritesClause cs c := by
  rw [Clause.read_eq] at h
  split at h
  · rename_i low high hwords
    obtain ⟨g, rest, rfl, hg, -, -, hopen, hrest⟩ := words_eq_cons hwords
    obtain ⟨g₁, rest₁, rfl, hg₁, -, -, hopen₁, hrest₁⟩ := words_eq_cons hrest
    obtain ⟨g₂, rest₂, rfl, hg₂, -, hhighne, -, hrest₂⟩ := words_eq_cons hrest₁
    have hh : Gap rest₂ := gap_of_words_eq_nil hrest₂
    split at h
    · cases h
    · rename_i l hl
      split at h
      · cases h
      · rename_i k hk
        cases h
        have hlow : WritesEnd low l := (readEnd?_eq_some_iff _ _).mp hl
        have hhigh : WritesEnd high k := (readEnd?_eq_some_iff _ _).mp hk
        -- the gaps around the hyphen are not empty, or it would be part of a word beside it
        have hne₁ : g₁ ≠ [] := by
          rintro rfl
          exact absurd (hopen '-' rfl) (by decide)
        have hne₂ : g₂ ≠ [] := by
          rintro rfl
          obtain ⟨c, ds, rfl⟩ := List.exists_cons_of_ne_nil hhighne
          have hblank : isBlank c = true := hopen₁ c rfl
          exact Bool.false_ne_true ((hhigh.solid.1 c (by simp)).symm.trans hblank)
        have hwrites := WritesClause.between hg hlow hg₁ hne₁ hg₂ hne₂ hhigh hh
        simpa using hwrites
  · split at h
    · cases h
    · rename_i ss hss
      cases h
      -- the blanks that were trimmed join the gaps at the ends
      obtain ⟨g, g', hg, hg', hcs⟩ := exists_trim cs
      rcases exists_writesSimples hss rfl with ⟨rfl, hgap⟩ | ⟨g₁, t, g₂, hg₁, hg₂, htrim, ht⟩
      · rw [hcs]
        exact .empty ((hg.append hgap).append hg')
      · have hwrites := WritesClause.simples (hg.append hg₁) (hg₂.append hg') ht
        rw [hcs, htrim]
        simpa using hwrites

/-- A text whose words are no hyphen range is read as simples. -/
theorem Clause.read_of_tied {cs : List Char} (h : Tied cs) {ss : List (Sign × Partial)}
    (hread : readSimples (words (closeGaps false (trim cs))) = .ok ss) :
    Clause.read cs = .ok (.all ss) := by
  rw [Clause.read_eq]
  split
  · rename_i hwords
    exact absurd h (not_tied_of_words hwords)
  · rw [hread]

theorem Clause.read_complete {cs : List Char} {c : Clause} (h : WritesClause cs c) :
    Clause.read cs = .ok c := by
  cases h with
  | empty hg =>
    apply Clause.read_of_tied (tied_of_gap hg)
    have htrim : trim cs = [] := by
      simpa using trim_append (t := []) hg Gap.nil (by simp) (by simp)
    rw [htrim]
    rfl
  | @simples g t g' ss hg hh hss =>
    apply Clause.read_of_tied (((tied_of_gap hg).append hss.tied).append (tied_of_gap hh))
    obtain ⟨c, ds, rfl, hc⟩ := hss.first
    rw [trim_append hg hh (by simpa using hc) hss.last]
    exact hss.read
  | between hg hlow hg₁ hne₁ hg₂ hne₂ hhigh hh =>
    rw [Clause.read_eq]
    rw [words_between hg hlow hg₁ hne₁ hg₂ hne₂ hhigh hh]
    simp only [(readEnd?_eq_some_iff _ _).mpr hlow, (readEnd?_eq_some_iff _ _).mpr hhigh]

/-- A text is read as a clause exactly if it writes the clause. -/
theorem Clause.read_eq_ok_iff (cs : List Char) (c : Clause) :
    Clause.read cs = .ok c ↔ WritesClause cs c :=
  ⟨Clause.read_sound, Clause.read_complete⟩

/-! ### Ranges -/

theorem splitBars_cons {c : Char} (hc : c ≠ '|') (cs : List Char) :
    ∃ p ps, splitBars cs = p :: ps ∧ splitBars (c :: cs) = (c :: p) :: ps := by
  cases h : splitBars cs with
  | nil => exact absurd h (splitBars_ne_nil cs)
  | cons p ps => exact ⟨p, ps, rfl, by simp [splitBars, hc, h]⟩

theorem splitBars_append {p : List Char} (hp : '|' ∉ p) (cs : List Char) :
    splitBars (p ++ '|' :: '|' :: cs) = p :: splitBars cs := by
  induction p with
  | nil => rfl
  | cons c p ih =>
    obtain ⟨hc, hp⟩ := not_or.mp fun h => hp (List.mem_cons.mpr h)
    obtain ⟨q, qs, hsplit, hcons⟩ := splitBars_cons (Ne.symm hc) (p ++ '|' :: '|' :: cs)
    rw [ih hp] at hsplit
    obtain ⟨rfl, rfl⟩ := List.cons.inj hsplit
    exact hcons

theorem splitBars_of_not_mem {p : List Char} (hp : '|' ∉ p) : splitBars p = [p] := by
  induction p with
  | nil => rfl
  | cons c p ih =>
    obtain ⟨hc, hp⟩ := not_or.mp fun h => hp (List.mem_cons.mpr h)
    obtain ⟨q, qs, hsplit, hcons⟩ := splitBars_cons (Ne.symm hc) p
    rw [ih hp] at hsplit
    obtain ⟨rfl, rfl⟩ := List.cons.inj hsplit
    exact hcons

/-- Pieces without bars come back from the text that they are joined to. -/
theorem splitBars_joinWith {ps : List (List Char)} (hne : ps ≠ []) (hps : ∀ p ∈ ps, '|' ∉ p) :
    splitBars (joinWith ['|', '|'] ps) = ps := by
  induction ps with
  | nil => exact absurd rfl hne
  | cons p ps ih =>
    by_cases hnil : ps = []
    · rw [hnil]
      exact splitBars_of_not_mem (hps p (by simp))
    · rw [joinWith_cons hnil, List.append_assoc]
      have htail := ih hnil fun q hq => hps q (by simp [hq])
      exact (splitBars_append (hps p (by simp)) _).trans (congrArg _ htail)

theorem joinWith_splitBars (cs : List Char) : joinWith ['|', '|'] (splitBars cs) = cs := by
  fun_induction splitBars cs with
  | case1 => rfl
  | case2 cs ih =>
    rw [joinWith_cons (splitBars_ne_nil cs), ih]
    rfl
  | case3 c cs _ hnil => exact absurd hnil (splitBars_ne_nil cs)
  | case4 c cs _ p ps hsplit ih =>
    rw [hsplit] at ih
    by_cases hnil : ps = []
    · subst hnil
      exact congrArg _ ih
    · rw [joinWith_cons hnil] at ih ⊢
      exact congrArg _ ih

/-! ### No separators -/

section Separators

variable {d : Char} (hd : isSeparator d = true)

include hd

theorem not_mem_separator_of_plain {t : List Char} (h : ∀ c ∈ t, IsPlain c) : d ∉ t :=
  fun hmem => Bool.false_ne_true ((h d hmem).2.2.symm.trans hd)

theorem not_mem_separator_of_gap {g : List Char} (hg : Gap g) : d ∉ g := by
  intro hmem
  have hblank := hg d hmem
  simp only [isSeparator, Bool.or_eq_true, decide_eq_true_eq] at hd
  rcases hd with rfl | rfl <;> exact absurd hblank (by decide)

theorem separator_ne {c : Char} (hc : isSeparator c = false) : d ≠ c := by
  rintro rfl
  exact Bool.false_ne_true (hc.symm.trans hd)

theorem WritesSign.not_mem_separator {o : List Char} {s : Sign} (h : WritesSign o s) :
    d ∉ o := by
  have hne : ∀ c, isSeparator c = false → d ≠ c := fun c => separator_ne hd
  cases h with
  | none => simp
  | exact => simpa using hne '=' (by decide)
  | below => simpa using hne '<' (by decide)
  | above => simpa using hne '>' (by decide)
  | atMost hg =>
    simpa [not_mem_separator_of_gap hd hg] using ⟨hne '<' (by decide), hne '=' (by decide)⟩
  | atLeast hg =>
    simpa [not_mem_separator_of_gap hd hg] using ⟨hne '>' (by decide), hne '=' (by decide)⟩
  | tilde => simpa using hne '~' (by decide)
  | tildeAbove hg =>
    simpa [not_mem_separator_of_gap hd hg] using ⟨hne '~' (by decide), hne '>' (by decide)⟩
  | caret => simpa using hne '^' (by decide)

theorem WritesSimple.not_mem_separator {t : List Char} {s : Sign × Partial}
    (h : WritesSimple t s) : d ∉ t := by
  obtain ⟨o, g, u, rfl, ho, hg, -, hu⟩ := h
  simp [ho.not_mem_separator hd, not_mem_separator_of_gap hd hg,
    not_mem_separator_of_plain hd hu.plain]

theorem WritesSimples.not_mem_separator {t : List Char} {ss : List (Sign × Partial)}
    (h : WritesSimples t ss) : d ∉ t := by
  induction h with
  | one hs => exact hs.not_mem_separator hd
  | cons hs hg _ _ ih =>
    simp [hs.not_mem_separator hd, not_mem_separator_of_gap hd hg, ih]

theorem WritesEnd.not_mem_separator {t : List Char} {p : Partial} (h : WritesEnd t p) :
    d ∉ t := by
  rcases h with h | ⟨u, rfl, h⟩
  · exact not_mem_separator_of_plain hd h.plain
  · simpa [not_mem_separator_of_plain hd h.plain] using separator_ne hd (by decide)

theorem WritesClause.not_mem_separator {t : List Char} {c : Clause} (h : WritesClause t c) :
    d ∉ t := by
  have hgap : ∀ g, Gap g → d ∉ g := fun _ => not_mem_separator_of_gap hd
  cases h with
  | empty hg => exact hgap _ hg
  | simples hg hh hss => simp [hgap _ hg, hgap _ hh, hss.not_mem_separator hd]
  | between hg hlow hg₁ _ hg₂ _ hhigh hh =>
    have hhyphen : d ≠ '-' := separator_ne hd (by decide)
    simp [hgap _ hg, hgap _ hg₁, hgap _ hg₂, hgap _ hh, hhyphen, hlow.not_mem_separator hd,
      hhigh.not_mem_separator hd]

theorem not_mem_separator_of_forall₂ {ps : List (List Char)} {cs : List Clause}
    (h : List.Forall₂ WritesClause ps cs) : ∀ p ∈ ps, d ∉ p := by
  induction h with
  | nil => simp
  | cons hc _ ih =>
    rw [List.forall_mem_cons]
    exact ⟨hc.not_mem_separator hd, ih⟩

end Separators

/-! ### Ranges as rows of clauses -/

theorem readClauses_eq_ok_iff (ps : List (List Char)) (cs : List Clause) :
    readClauses ps = .ok cs ↔ List.Forall₂ WritesClause ps cs := by
  induction ps generalizing cs with
  | nil =>
    constructor
    · intro h
      cases h
      exact .nil
    · intro h
      cases h
      rfl
  | cons p ps ih =>
    rw [readClauses_cons]
    constructor
    · intro h
      split at h
      · cases h
      · rename_i c hc
        split at h
        · cases h
        · rename_i cs' hcs'
          cases h
          exact .cons ((Clause.read_eq_ok_iff p c).mp hc) ((ih cs').mp hcs')
    · intro h
      cases h with
      | cons hc hcs =>
        rw [(Clause.read_eq_ok_iff _ _).mpr hc]
        simp only [(ih _).mpr hcs]

/-- A text is read as a row of clauses exactly if it writes the row. -/
theorem readClauses_splitBars_iff (t : List Char) (cs : List Clause) :
    readClauses (splitBars t) = .ok cs ↔ WritesRange t cs := by
  rw [readClauses_eq_ok_iff]
  constructor
  · exact fun h => ⟨splitBars t, splitBars_ne_nil t, (joinWith_splitBars t).symm, h⟩
  · rintro ⟨ps, hne, rfl, hps⟩
    rwa [splitBars_joinWith hne (not_mem_separator_of_forall₂ (by decide) hps)]

/-! ### Gaps around ranges -/

section Surrounded

variable {g h : List Char} (hg : Gap g) (hh : Gap h)

include hg in
theorem splitBars_gap_append (t : List Char) :
    ∃ p ps, splitBars t = p :: ps ∧ splitBars (g ++ t) = (g ++ p) :: ps := by
  induction g with
  | nil =>
    obtain ⟨p, ps, hsplit⟩ := List.exists_cons_of_ne_nil (splitBars_ne_nil t)
    exact ⟨p, ps, hsplit, hsplit⟩
  | cons c g ih =>
    obtain ⟨p, ps, hsplit, hgap⟩ := ih fun x hx => hg x (by simp [hx])
    have hc : c ≠ '|' := by
      rintro rfl
      exact absurd (hg '|' (by simp)) (by decide)
    obtain ⟨q, qs, hq, hcons⟩ := splitBars_cons hc (g ++ t)
    obtain ⟨rfl, rfl⟩ := List.cons.inj (hgap.symm.trans hq)
    exact ⟨p, ps, hsplit, hcons⟩

include hh in
theorem splitBars_append_gap (t : List Char) :
    ∃ ps p, splitBars t = ps ++ [p] ∧ splitBars (t ++ h) = ps ++ [p ++ h] := by
  fun_induction splitBars t with
  | case1 =>
    have hbar : '|' ∉ h := not_mem_separator_of_gap (by decide) hh
    exact ⟨[], [], rfl, splitBars_of_not_mem hbar⟩
  | case2 cs ih =>
    obtain ⟨ps, p, hsplit, hgap⟩ := ih
    refine ⟨[] :: ps, p, by rw [hsplit, List.cons_append], ?_⟩
    exact congrArg _ hgap
  | case3 c cs _ hnil => exact absurd hnil (splitBars_ne_nil cs)
  | case4 c cs hsingle q qs hsplit ih =>
    obtain ⟨ps, p, hps, hgap⟩ := ih
    -- a bar at the end of the text has no bar after it, since a gap has none
    have hsingle' : ∀ cs', c = '|' → cs ++ h = '|' :: cs' → False := by
      intro cs' hc hcs
      cases cs with
      | nil => exact absurd (hh '|' (by rw [← List.nil_append h, hcs]; simp)) (by decide)
      | cons d cs =>
        obtain ⟨rfl, -⟩ := List.cons.inj hcs
        exact hsingle cs hc rfl
    rw [List.cons_append, splitBars.eq_3 _ _ hsingle', hgap]
    rw [hps] at hsplit
    cases ps with
    | nil =>
      obtain ⟨rfl, rfl⟩ := List.cons.inj hsplit
      exact ⟨[], c :: p, rfl, rfl⟩
    | cons r ps =>
      obtain ⟨rfl, rfl⟩ := List.cons.inj hsplit
      exact ⟨(c :: r) :: ps, p, rfl, rfl⟩

include hg hh in
theorem Clause.read_between (p : List Char) : Clause.read (g ++ p ++ h) = Clause.read p := by
  rw [Clause.read_eq, Clause.read_eq, words_append_gap hh, words_gap_append hg, trim_between hg hh]

include hh in
theorem readClauses_concat_gap (ps : List (List Char)) (p : List Char) :
    readClauses (ps ++ [p ++ h]) = readClauses (ps ++ [p]) := by
  have hlast : Clause.read (p ++ h) = Clause.read p := Clause.read_between Gap.nil hh p
  induction ps with
  | nil => simp only [List.nil_append, readClauses_cons, hlast]
  | cons q ps ih => simp only [List.cons_append, readClauses_cons, ih]

include hg hh in
/-- Gaps around a text do not change how it is read. -/
theorem readClauses_between (t : List Char) :
    readClauses (splitBars (g ++ t ++ h)) = readClauses (splitBars t) := by
  obtain ⟨ps, p, hsplit, hback⟩ := splitBars_append_gap hh (g ++ t)
  obtain ⟨q, qs, hsplit', hfront⟩ := splitBars_gap_append hg t
  have hfirst : Clause.read (g ++ q) = Clause.read q := by
    have hread := Clause.read_between hg Gap.nil q
    rwa [List.append_nil] at hread
  rw [hback, readClauses_concat_gap hh, ← hsplit, hfront, hsplit', readClauses_cons, readClauses_cons, hfirst]

end Surrounded

end MergeGate
