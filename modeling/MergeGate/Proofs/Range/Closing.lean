import MergeGate.Proofs.Range.Partial

/-
  MergeGate/Proofs/Range/Closing.lean
  ===================================
  **Simples without their gaps.**  The reader takes the blanks after signs away before it looks for
  words, so a sign, its gap and its partial version become one word.

  Both ways of that step are given.  A simple becomes one word that is read as it
  (`WritesSimple.close`), and a word that is read as a simple comes from a text that writes it
  (`exists_writesSimple`); for that, the statements about `closeGaps` say which piece of a text a
  piece of the closed text comes from.  By induction the same holds of rows of simples
  (`WritesSimples.read`, `exists_writesSimples`).
-/

namespace MergeGate

open MergeGate.Text MergeGate.Version

/-! ### Closing gaps -/

theorem isSignChar_of_isBlank {c : Char} (h : isBlank c = true) : isSignChar c = false := by
  by_contra hsign
  simp only [isSignChar, Bool.or_eq_false_iff, decide_eq_false_iff_not, not_and_or,
    not_not] at hsign
  rcases hsign with (((rfl | rfl) | rfl) | rfl) | rfl <;> exact absurd h (by decide)

theorem closeGaps_cons {c : Char} (skipping : Bool) (h : isBlank c = false) (cs : List Char) :
    closeGaps skipping (c :: cs) = c :: closeGaps (isSignChar c) cs := by
  simp [closeGaps, h]

theorem closeGaps_blank_cons {c : Char} (h : isBlank c = true) (cs : List Char) :
    closeGaps false (c :: cs) = c :: closeGaps false cs := by
  simp [closeGaps, isSignChar_of_isBlank h]

theorem closeGaps_true_gap {g : List Char} (hg : Gap g) (cs : List Char) :
    closeGaps true (g ++ cs) = closeGaps true cs := by
  induction g with
  | nil => rfl
  | cons c g ih =>
    have hc : isBlank c = true := hg c (by simp)
    have htail := ih fun x hx => hg x (by simp [hx])
    simp [closeGaps, hc, htail]

theorem closeGaps_false_gap {g : List Char} (hg : Gap g) (cs : List Char) :
    closeGaps false (g ++ cs) = g ++ closeGaps false cs := by
  induction g with
  | nil => rfl
  | cons c g ih =>
    rw [List.cons_append, closeGaps_blank_cons (hg c (by simp))]
    exact congrArg _ (ih fun x hx => hg x (by simp [hx]))

theorem closeGaps_plain {u : List Char} (hu : ∀ c ∈ u, IsPlain c) (cs : List Char) :
    closeGaps false (u ++ cs) = u ++ closeGaps false cs := by
  induction u with
  | nil => rfl
  | cons c u ih =>
    obtain ⟨hblank, hsign, -⟩ := hu c (by simp)
    rw [List.cons_append, closeGaps_cons _ hblank, hsign]
    exact congrArg _ (ih fun x hx => hu x (by simp [hx]))

/-- The first character of a closed text, where no gap is skipped, is that of the text. -/
theorem closeGaps_false_eq_cons {cs y : List Char} {c : Char} (h : closeGaps false cs = c :: y) :
    ∃ cs', cs = c :: cs' ∧ closeGaps (isSignChar c) cs' = y := by
  cases cs with
  | nil => cases h
  | cons d cs' =>
    simp only [closeGaps, Bool.false_and, Bool.false_eq_true, if_false, List.cons.injEq] at h
    obtain ⟨rfl, hy⟩ := h
    exact ⟨cs', rfl, hy⟩

/-- Where gaps are skipped, a text is a gap and then a text that is closed as usual. -/
theorem closeGaps_true_split (cs : List Char) :
    ∃ g cs', Gap g ∧ cs = g ++ cs' ∧ closeGaps false cs' = closeGaps true cs := by
  induction cs with
  | nil => exact ⟨[], [], Gap.nil, rfl, rfl⟩
  | cons c cs ih =>
    by_cases hc : isBlank c = true
    · obtain ⟨g, cs', hg, rfl, hclosed⟩ := ih
      refine ⟨c :: g, cs', ?_, rfl, ?_⟩
      · intro x hx
        rcases List.mem_cons.mp hx with rfl | hx
        · exact hc
        · exact hg x hx
      · simp [closeGaps, hc, hclosed]
    · have hc : isBlank c = false := by simpa using hc
      exact ⟨[], c :: cs, Gap.nil, rfl, by rw [closeGaps_cons _ hc, closeGaps_cons _ hc]⟩

theorem closeGaps_false_eq_gap_append {cs g y : List Char} (hg : Gap g)
    (h : closeGaps false cs = g ++ y) : ∃ cs', cs = g ++ cs' ∧ closeGaps false cs' = y := by
  induction g generalizing cs with
  | nil => exact ⟨cs, rfl, h⟩
  | cons c g ih =>
    obtain ⟨cs', rfl, htail⟩ := closeGaps_false_eq_cons h
    rw [isSignChar_of_isBlank (hg c (by simp))] at htail
    obtain ⟨cs'', rfl, hrest⟩ := ih (fun x hx => hg x (by simp [hx])) htail
    exact ⟨cs'', rfl, hrest⟩

theorem closeGaps_false_eq_plain_append {cs u y : List Char} (hu : ∀ c ∈ u, IsPlain c)
    (h : closeGaps false cs = u ++ y) : ∃ cs', cs = u ++ cs' ∧ closeGaps false cs' = y := by
  induction u generalizing cs with
  | nil => exact ⟨cs, rfl, h⟩
  | cons c u ih =>
    obtain ⟨cs', rfl, htail⟩ := closeGaps_false_eq_cons h
    rw [(hu c (by simp)).2.1] at htail
    obtain ⟨cs'', rfl, hrest⟩ := ih (fun x hx => hu x (by simp [hx])) htail
    exact ⟨cs'', rfl, hrest⟩

/-- A closed text is a gap only if the text is one. -/
theorem gap_of_closeGaps {cs : List Char} (h : Gap (closeGaps false cs)) : Gap cs := by
  have hwhole : closeGaps false cs = closeGaps false cs ++ [] := (List.append_nil _).symm
  obtain ⟨cs', hcs, hnil⟩ := closeGaps_false_eq_gap_append h hwhole
  cases cs' with
  | nil =>
    rw [hcs, List.append_nil]
    exact h
  | cons c cs' => simp [closeGaps] at hnil

theorem open_of_closeGaps {cs : List Char} (h : Open (closeGaps false cs)) : Open cs := by
  cases cs with
  | nil => exact open_nil
  | cons c cs =>
    have hfirst : (closeGaps false (c :: cs)).head? = some c := by simp [closeGaps]
    intro d hd
    exact h d (hfirst.trans hd)

/-- A sign character of a closed text stands in the text with a gap after it. -/
theorem closeGaps_false_eq_sign_cons {cs y : List Char} {c : Char} (hc : isSignChar c = true)
    (h : closeGaps false cs = c :: y) :
    ∃ g cs', Gap g ∧ cs = c :: (g ++ cs') ∧ closeGaps false cs' = y := by
  obtain ⟨rest, rfl, htail⟩ := closeGaps_false_eq_cons h
  rw [hc] at htail
  obtain ⟨g, cs', hg, rfl, hclosed⟩ := closeGaps_true_split rest
  exact ⟨g, cs', hg, rfl, hclosed.trans htail⟩

theorem isBlank_of_isSignChar {c : Char} (h : isSignChar c = true) : isBlank c = false := by
  by_contra hblank
  have hnot := isSignChar_of_isBlank (by simpa using hblank)
  exact Bool.false_ne_true (hnot.symm.trans h)

theorem closeGaps_sign_gap {c d : Char} (hc : isSignChar c = true) {g : List Char} (hg : Gap g)
    (hd : isBlank d = false) (cs : List Char) :
    closeGaps false (c :: (g ++ d :: cs)) = c :: closeGaps false (d :: cs) := by
  rw [closeGaps_cons _ (isBlank_of_isSignChar hc), hc, closeGaps_true_gap hg,
    closeGaps_cons _ hd, closeGaps_cons _ hd]

/-- Two sign characters come together, and the gap after them is closed. -/
theorem closeGaps_signs_gap {c d e : Char} (hc : isSignChar c = true) (hd : isSignChar d = true)
    {g g' : List Char} (hg : Gap g) (hg' : Gap g') (he : isBlank e = false) (cs : List Char) :
    closeGaps false (c :: (g ++ [d]) ++ g' ++ e :: cs) =
      c :: d :: closeGaps false (e :: cs) := by
  have hshape : c :: (g ++ [d]) ++ g' ++ e :: cs = c :: (g ++ d :: (g' ++ e :: cs)) := by
    simp
  rw [hshape, closeGaps_sign_gap hc hg (isBlank_of_isSignChar hd),
    closeGaps_sign_gap hd hg' he]

/-! ### Signs -/

/-- A sign without gaps is read as such before a plain character. -/
theorem readSign_append {o : List Char} {s : Sign} (ho : WritesSign o s) (hsolid : Solid o)
    {c : Char} (hc : IsPlain c) (cs : List Char) : readSign (o ++ c :: cs) = (s, c :: cs) := by
  have hnot : ∀ d, isSignChar d = true → c ≠ d := by
    rintro d hd rfl
    exact Bool.false_ne_true (hc.2.1.symm.trans hd)
  have hbelow := hnot '<' (by decide)
  have habove := hnot '>' (by decide)
  have hequal := hnot '=' (by decide)
  have htilde := hnot '~' (by decide)
  have hcaret := hnot '^' (by decide)
  cases ho with
  | none => simp [readSign, hbelow, habove, hequal, htilde, hcaret]
  | exact => rfl
  | below => simp [readSign, hequal]
  | above => simp [readSign, hequal]
  | tilde => simp [readSign, habove]
  | caret => rfl
  | atMost hg =>
    rw [hg.eq_nil_of_solid fun c hc => hsolid c (by simp [hc])]
    rfl
  | atLeast hg =>
    rw [hg.eq_nil_of_solid fun c hc => hsolid c (by simp [hc])]
    rfl
  | tildeAbove hg =>
    rw [hg.eq_nil_of_solid fun c hc => hsolid c (by simp [hc])]
    rfl

/-- What is read as a sign is one, without gaps. -/
theorem readSign_sound (w : List Char) :
    ∃ o, w = o ++ (readSign w).2 ∧ WritesSign o (readSign w).1 ∧ Solid o := by
  unfold readSign
  split
  · exact ⟨['<', '='], rfl, .atMost Gap.nil, by simp [Solid]; decide⟩
  · exact ⟨['>', '='], rfl, .atLeast Gap.nil, by simp [Solid]; decide⟩
  · exact ⟨['~', '>'], rfl, .tildeAbove Gap.nil, by simp [Solid]; decide⟩
  · exact ⟨['<'], rfl, .below, by simp [Solid]; decide⟩
  · exact ⟨['>'], rfl, .above, by simp [Solid]; decide⟩
  · exact ⟨['='], rfl, .exact, by simp [Solid]; decide⟩
  · exact ⟨['~'], rfl, .tilde, by simp [Solid]; decide⟩
  · exact ⟨['^'], rfl, .caret, by simp [Solid]; decide⟩
  · exact ⟨[], rfl, .none, by simp [Solid]⟩

/-- Closing gaps makes a sign with its gap a sign without gaps. -/
theorem WritesSign.close {o g : List Char} {s : Sign} (ho : WritesSign o s) (hg : Gap g)
    (hnone : o = [] → g = []) :
    ∃ o', WritesSign o' s ∧ Solid o' ∧ ∀ c cs, isBlank c = false →
      closeGaps false (o ++ g ++ c :: cs) = o' ++ closeGaps false (c :: cs) := by
  cases ho with
  | none =>
    obtain rfl := hnone rfl
    exact ⟨[], .none, by simp [Solid], fun _ _ _ => rfl⟩
  | exact =>
    refine ⟨['='], .exact, by simp [Solid]; decide, fun c cs hc => ?_⟩
    exact closeGaps_sign_gap (by decide) hg hc cs
  | below =>
    refine ⟨['<'], .below, by simp [Solid]; decide, fun c cs hc => ?_⟩
    exact closeGaps_sign_gap (by decide) hg hc cs
  | above =>
    refine ⟨['>'], .above, by simp [Solid]; decide, fun c cs hc => ?_⟩
    exact closeGaps_sign_gap (by decide) hg hc cs
  | tilde =>
    refine ⟨['~'], .tilde, by simp [Solid]; decide, fun c cs hc => ?_⟩
    exact closeGaps_sign_gap (by decide) hg hc cs
  | caret =>
    refine ⟨['^'], .caret, by simp [Solid]; decide, fun c cs hc => ?_⟩
    exact closeGaps_sign_gap (by decide) hg hc cs
  | atMost hg' =>
    refine ⟨['<', '='], .atMost Gap.nil, by simp [Solid]; decide, fun c cs hc => ?_⟩
    exact closeGaps_signs_gap (by decide) (by decide) hg' hg hc cs
  | atLeast hg' =>
    refine ⟨['>', '='], .atLeast Gap.nil, by simp [Solid]; decide, fun c cs hc => ?_⟩
    exact closeGaps_signs_gap (by decide) (by decide) hg' hg hc cs
  | tildeAbove hg' =>
    refine ⟨['~', '>'], .tildeAbove Gap.nil, by simp [Solid]; decide, fun c cs hc => ?_⟩
    exact closeGaps_signs_gap (by decide) (by decide) hg' hg hc cs

/-- A sign at the front of a closed text comes from a sign with its gap. -/
theorem WritesSign.spread {o cs y : List Char} {s : Sign} (ho : WritesSign o s) (hsolid : Solid o)
    (hclosed : closeGaps false cs = o ++ y) :
    ∃ o' g cs', cs = o' ++ g ++ cs' ∧ WritesSign o' s ∧ Gap g ∧ (o' = [] → g = []) ∧
      closeGaps false cs' = y := by
  have hone : ∀ d, isSignChar d = true → closeGaps false cs = d :: y → WritesSign [d] s →
      ∃ o' g cs', cs = o' ++ g ++ cs' ∧ WritesSign o' s ∧ Gap g ∧ (o' = [] → g = []) ∧
        closeGaps false cs' = y := by
    intro d hd hclosed hsign
    obtain ⟨g, cs', hg, rfl, hrest⟩ := closeGaps_false_eq_sign_cons hd hclosed
    exact ⟨[d], g, cs', rfl, hsign, hg, by simp, hrest⟩
  have htwo : ∀ d e, isSignChar d = true → isSignChar e = true →
      closeGaps false cs = d :: e :: y → (∀ g, Gap g → WritesSign (d :: (g ++ [e])) s) →
      ∃ o' g cs', cs = o' ++ g ++ cs' ∧ WritesSign o' s ∧ Gap g ∧ (o' = [] → g = []) ∧
        closeGaps false cs' = y := by
    intro d e hd he hclosed hsign
    obtain ⟨g, cs', hg, rfl, hrest⟩ := closeGaps_false_eq_sign_cons hd hclosed
    obtain ⟨g', cs'', hg', rfl, hrest'⟩ := closeGaps_false_eq_sign_cons he hrest
    exact ⟨d :: (g ++ [e]), g', cs'', by simp, hsign g hg, hg', by simp, hrest'⟩
  cases ho with
  | none => exact ⟨[], [], cs, rfl, .none, Gap.nil, fun _ => rfl, hclosed⟩
  | exact => exact hone '=' (by decide) hclosed .exact
  | below => exact hone '<' (by decide) hclosed .below
  | above => exact hone '>' (by decide) hclosed .above
  | tilde => exact hone '~' (by decide) hclosed .tilde
  | caret => exact hone '^' (by decide) hclosed .caret
  | atMost hg =>
    rw [hg.eq_nil_of_solid fun c hc => hsolid c (by simp [hc])] at hclosed
    exact htwo '<' '=' (by decide) (by decide) hclosed fun _ => .atMost
  | atLeast hg =>
    rw [hg.eq_nil_of_solid fun c hc => hsolid c (by simp [hc])] at hclosed
    exact htwo '>' '=' (by decide) (by decide) hclosed fun _ => .atLeast
  | tildeAbove hg =>
    rw [hg.eq_nil_of_solid fun c hc => hsolid c (by simp [hc])] at hclosed
    exact htwo '~' '>' (by decide) (by decide) hclosed fun _ => .tildeAbove

/-! ### Simples -/

/-- A simple becomes one word, whatever follows it. -/
theorem WritesSimple.close {t : List Char} {s : Sign × Partial} (h : WritesSimple t s) :
    ∃ w, readSimple? w = some s ∧ Solid w ∧ w ≠ [] ∧
      ∀ cs, closeGaps false (t ++ cs) = w ++ closeGaps false cs := by
  obtain ⟨o, g, u, rfl, ho, hg, hnone, hu⟩ := h
  obtain ⟨o', ho', hsolid, hclose⟩ := ho.close hg hnone
  obtain ⟨c, ds, rfl, -⟩ := hu.first
  have hplain : ∀ d ∈ c :: ds, IsPlain d := hu.plain
  have hc : IsPlain c := hplain c (by simp)
  refine ⟨o' ++ c :: ds, ?_, hsolid.append fun d hd => (hplain d hd).1, by simp, ?_⟩
  · rw [readSimple?_eq, readSign_append ho' hsolid hc]
    simp only [(Partial.read?_eq_some_iff _ _).mpr hu, Option.map_some]
  · intro cs
    calc closeGaps false (o ++ g ++ c :: ds ++ cs)
        = closeGaps false (o ++ g ++ c :: (ds ++ cs)) := by simp
      _ = o' ++ closeGaps false (c :: ds ++ cs) := hclose c (ds ++ cs) hc.1
      _ = o' ++ c :: ds ++ closeGaps false cs := by
        rw [closeGaps_plain hplain, List.append_assoc]

/-- A word at the front of a closed text that is read as a simple comes from a simple. -/
theorem exists_writesSimple {w cs y : List Char} {s : Sign × Partial}
    (hread : readSimple? w = some s) (hclosed : closeGaps false cs = w ++ y) :
    ∃ t cs', cs = t ++ cs' ∧ WritesSimple t s ∧ closeGaps false cs' = y := by
  obtain ⟨p, hp, rfl⟩ := Option.map_eq_some_iff.mp hread
  obtain ⟨o, hw, ho, hsolid⟩ := readSign_sound w
  have hu : WritesPartial (readSign w).2 p := (Partial.read?_eq_some_iff _ _).mp hp
  rw [hw, List.append_assoc] at hclosed
  obtain ⟨o', g, rest, rfl, ho', hg, hnone, hrest⟩ := ho.spread hsolid hclosed
  obtain ⟨cs', rfl, hcs'⟩ := closeGaps_false_eq_plain_append hu.plain hrest
  exact ⟨o' ++ g ++ (readSign w).2, cs', by simp, ⟨o', g, _, rfl, ho', hg, hnone, hu⟩, hcs'⟩

theorem WritesSimple.first {t : List Char} {s : Sign × Partial} (h : WritesSimple t s) :
    ∃ c ds, t = c :: ds ∧ isBlank c = false := by
  obtain ⟨w, -, hsolid, hne, hclose⟩ := h.close
  have hwhole := hclose []
  cases w with
  | nil => exact absurd rfl hne
  | cons c w =>
    obtain ⟨ds, ht, -⟩ := closeGaps_false_eq_cons hwhole
    rw [List.append_nil] at ht
    exact ⟨c, ds, ht, hsolid c (by simp)⟩

theorem WritesPartial.last {t : List Char} {p : Partial} (h : WritesPartial t p) :
    ∀ c ∈ t.getLast?, isBlank c = false :=
  fun c hc => (h.plain c (List.mem_of_getLast? hc)).1

theorem WritesSimple.last {t : List Char} {s : Sign × Partial} (h : WritesSimple t s) :
    ∀ c ∈ t.getLast?, isBlank c = false := by
  obtain ⟨o, g, u, rfl, -, -, -, hu⟩ := h
  obtain ⟨c, ds, rfl, -⟩ := hu.first
  rw [List.getLast?_append_of_ne_nil _ (by simp)]
  exact hu.last

theorem WritesSimples.first {t : List Char} {ss : List (Sign × Partial)} (h : WritesSimples t ss) :
    ∃ c ds, t = c :: ds ∧ isBlank c = false := by
  cases h with
  | one hs => exact hs.first
  | cons hs _ _ _ =>
    obtain ⟨c, ds, rfl, hc⟩ := hs.first
    exact ⟨c, _, rfl, hc⟩

theorem WritesSimples.last {t : List Char} {ss : List (Sign × Partial)} (h : WritesSimples t ss) :
    ∀ c ∈ t.getLast?, isBlank c = false := by
  induction h with
  | one hs => exact hs.last
  | cons _ _ _ hss ih =>
    obtain ⟨c, ds, rfl, -⟩ := hss.first
    rw [List.getLast?_append_of_ne_nil _ (by simp)]
    exact ih

/-- The words of simples are read as the simples. -/
theorem WritesSimples.read {t : List Char} {ss : List (Sign × Partial)} (h : WritesSimples t ss) :
    readSimples (words (closeGaps false t)) = .ok ss := by
  induction h with
  | @one t s hs =>
    obtain ⟨w, hread, hsolid, hne, hclose⟩ := hs.close
    have hclosed : closeGaps false t = w := by
      simpa [closeGaps] using hclose []
    rw [hclosed, words_solid hsolid hne, readSimples_cons, hread]
    rfl
  | @cons t g u s ss hs hg hne _ ih =>
    obtain ⟨w, hread, hsolid, hwne, hclose⟩ := hs.close
    have hclosed : closeGaps false (t ++ g ++ u) = w ++ (g ++ closeGaps false u) := by
      rw [List.append_assoc, hclose, closeGaps_false_gap hg]
    rw [hclosed, words_append hsolid hwne (hg.open_append hne _), words_gap_append hg, readSimples_cons,
      hread]
    simp only [ih]

/-- A text whose words are read as simples writes them, or is a gap if there are none. -/
theorem exists_writesSimples {ws : List (List Char)} {ss : List (Sign × Partial)}
    (hread : readSimples ws = .ok ss) {cs : List Char} (hws : words (closeGaps false cs) = ws) :
    (ss = [] ∧ Gap cs) ∨ ∃ g t h, Gap g ∧ Gap h ∧ cs = g ++ t ++ h ∧ WritesSimples t ss := by
  induction ws generalizing ss cs with
  | nil =>
    cases hread
    exact .inl ⟨rfl, gap_of_closeGaps (gap_of_words_eq_nil hws)⟩
  | cons w ws ih =>
    obtain ⟨g, rest, hclosed, hg, -, -, hopen, hrest⟩ := words_eq_cons hws
    rw [List.append_assoc] at hclosed
    obtain ⟨cs₁, rfl, hcs₁⟩ := closeGaps_false_eq_gap_append hg hclosed
    rw [readSimples_cons] at hread
    split at hread
    · cases hread
    · rename_i s hs
      obtain ⟨t, cs₂, rfl, ht, rfl⟩ := exists_writesSimple hs hcs₁
      split at hread
      · cases hread
      · rename_i ss' hss'
        cases hread
        -- the gap between two words is not empty, since the first ended there
        rcases ih hss' hrest with ⟨rfl, hgap⟩ | ⟨g₂, u, h, hg₂, hh, rfl, hu⟩
        · exact .inr ⟨g, t, cs₂, hg, hgap, by simp, .one ht⟩
        · have hne : g₂ ≠ [] := by
            rintro rfl
            obtain ⟨c, ds, rfl, hc⟩ := hu.first
            have hblank : isBlank c = true := open_of_closeGaps hopen c rfl
            exact Bool.false_ne_true (hc.symm.trans hblank)
          exact .inr ⟨g, t ++ g₂ ++ u, h, hg, hh, by simp, .cons ht hg₂ hne hu⟩

end MergeGate
