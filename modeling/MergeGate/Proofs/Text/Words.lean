import Mathlib.Data.List.Basic
import Mathlib.Data.List.TakeDrop
import Mathlib.Data.List.TakeWhile
import MergeGate.Text.Digit

/-
  MergeGate/Proofs/Text/Words.lean
  ================================
  **Words, trimming and cutting, by their parts.**  A text of blanks only is a gap, and one without
  blanks is solid.  `words` takes a solid text that is not empty for one word whenever the text
  after it is open, which means that it is empty or begins with a blank (`words_append`), and
  every text is read that way (`words_cases`).  Trimming leaves a text between two gaps
  (`trim_append`, `exists_trim`), and cutting a text at a character is the inverse of joining
  pieces without that character (`splitAt_joinWith`, `joinWith_splitAt`).
-/

namespace MergeGate.Text

/-- Blanks only. -/
def Gap (cs : List Char) : Prop := ∀ c ∈ cs, isBlank c = true

/-- No blanks. -/
def Solid (cs : List Char) : Prop := ∀ c ∈ cs, isBlank c = false

/-- Nothing, or a blank first. -/
def Open (cs : List Char) : Prop := ∀ c ∈ cs.head?, isBlank c = true

theorem Gap.nil : Gap [] := by
  simp [Gap]

theorem gap_singleton {c : Char} (h : isBlank c = true) : Gap [c] := by
  simp [Gap, h]

theorem Gap.append {g h : List Char} (hg : Gap g) (hh : Gap h) : Gap (g ++ h) := by
  intro c hc
  rcases List.mem_append.mp hc with hc | hc
  · exact hg c hc
  · exact hh c hc

theorem Gap.open_append {g : List Char} (hg : Gap g) (hne : g ≠ []) (cs : List Char) :
    Open (g ++ cs) := by
  cases g with
  | nil => exact absurd rfl hne
  | cons b g =>
    intro c hc
    simp only [List.cons_append, List.head?_cons, Option.mem_def, Option.some.injEq] at hc
    exact hc ▸ hg b (by simp)

theorem Solid.append {w x : List Char} (hw : Solid w) (hx : Solid x) : Solid (w ++ x) := by
  intro c hc
  rcases List.mem_append.mp hc with hc | hc
  · exact hw c hc
  · exact hx c hc

theorem Gap.eq_nil_of_solid {g : List Char} (hg : Gap g) (hsolid : Solid g) : g = [] := by
  cases g with
  | nil => rfl
  | cons c g => exact absurd ((hsolid c (by simp)).symm.trans (hg c (by simp))) Bool.false_ne_true

theorem open_nil : Open [] := by
  simp [Open]

/-- A run ends where a character without the property stands. -/
theorem first_dropWhile (p : Char → Bool) (cs : List Char) :
    ∀ c ∈ (cs.dropWhile p).head?, p c = false := by
  intro c hc
  have hnot := List.head?_dropWhile_not p cs
  rw [Option.mem_def.mp hc] at hnot
  simpa using hnot

/-- What follows a run of other characters is open. -/
theorem open_dropWhile (cs : List Char) : Open (cs.dropWhile fun c => !isBlank c) := by
  intro c hc
  simpa using first_dropWhile _ cs c hc

/-! ### Words -/

theorem wordsAux_append {w : List Char} (hw : Solid w) (cs : List Char) :
    wordsAux (w ++ cs) = (w ++ (wordsAux cs).1, (wordsAux cs).2) := by
  induction w with
  | nil => rfl
  | cons c w ih =>
    have hc : isBlank c = false := hw c (by simp)
    have htail := ih fun x hx => hw x (by simp [hx])
    simp [wordsAux, htail, hc]

theorem wordsAux_of_open {cs : List Char} (h : Open cs) : wordsAux cs = ([], words cs) := by
  cases cs with
  | nil => rfl
  | cons c cs =>
    have hc : isBlank c = true := h c (by simp)
    simp [wordsAux, words, hc, consWord]

theorem words_cons_of_blank {c : Char} (h : isBlank c = true) (cs : List Char) :
    words (c :: cs) = words cs := by
  simp [words, wordsAux, h, consWord]

theorem words_gap_append {g : List Char} (hg : Gap g) (cs : List Char) :
    words (g ++ cs) = words cs := by
  induction g with
  | nil => rfl
  | cons c g ih =>
    rw [List.cons_append, words_cons_of_blank (hg c (by simp))]
    exact ih fun x hx => hg x (by simp [hx])

theorem words_gap {g : List Char} (hg : Gap g) : words g = [] := by
  have := words_gap_append hg []
  rwa [List.append_nil, words_nil] at this

/-- A solid text that is not empty is one word if what follows it is open. -/
theorem words_append {w : List Char} (hw : Solid w) (hne : w ≠ []) {cs : List Char}
    (hcs : Open cs) :
    words (w ++ cs) = w :: words cs := by
  rw [words, wordsAux_append hw, wordsAux_of_open hcs]
  cases w with
  | nil => exact absurd rfl hne
  | cons c w => simp [consWord]

/-- A gap at the end of a text changes none of its words. -/
theorem words_append_gap {h : List Char} (hh : Gap h) (cs : List Char) :
    words (cs ++ h) = words cs := by
  have hsame : wordsAux (cs ++ h) = wordsAux cs := by
    induction cs with
    | nil =>
      rw [List.nil_append, wordsAux_of_open fun c hc => hh c (List.mem_of_mem_head? hc),
        words_gap hh]
      rfl
    | cons c cs ih => rw [List.cons_append, wordsAux, wordsAux, ih]
  rw [words, words, hsame]

theorem words_solid {w : List Char} (hw : Solid w) (hne : w ≠ []) : words w = [w] := by
  have := words_append hw hne open_nil
  rwa [List.append_nil, words_nil] at this

/-- A text is a gap, or a gap, a word and what follows that word. -/
theorem words_cases (cs : List Char) :
    (Gap cs ∧ words cs = []) ∨
    ∃ g w rest, cs = g ++ w ++ rest ∧ Gap g ∧ Solid w ∧ w ≠ [] ∧ Open rest ∧
      words cs = w :: words rest := by
  have hfront : Gap (cs.takeWhile isBlank) := fun c hc => List.mem_takeWhile_imp hc
  have hwhole : cs.takeWhile isBlank ++ cs.dropWhile isBlank = cs := List.takeWhile_append_dropWhile
  cases hrest : cs.dropWhile isBlank with
  | nil =>
    rw [hrest, List.append_nil] at hwhole
    rw [hwhole] at hfront
    exact .inl ⟨hfront, words_gap hfront⟩
  | cons c cs' =>
    have hc : isBlank c = false := first_dropWhile isBlank cs c (by rw [hrest]; rfl)
    have hsolid : Solid ((c :: cs').takeWhile fun c => !isBlank c) := by
      intro x hx
      simpa using List.mem_takeWhile_imp hx
    have hne : ((c :: cs').takeWhile fun c => !isBlank c) ≠ [] := by simp [hc]
    have hparts : c :: cs' = ((c :: cs').takeWhile fun c => !isBlank c) ++
        (c :: cs').dropWhile fun c => !isBlank c := List.takeWhile_append_dropWhile.symm
    refine .inr ⟨_, _, _, ?_, hfront, hsolid, hne, open_dropWhile (c :: cs'), ?_⟩
    · rw [List.append_assoc, ← hparts, ← hrest, hwhole]
    · calc words cs = words (cs.takeWhile isBlank ++ cs.dropWhile isBlank) := by rw [hwhole]
        _ = words (c :: cs') := by rw [words_gap_append hfront, hrest]
        _ = _ := by rw [← words_append hsolid hne (open_dropWhile _), ← hparts]

theorem gap_of_words_eq_nil {cs : List Char} (h : words cs = []) : Gap cs := by
  rcases words_cases cs with ⟨hgap, -⟩ | ⟨_, _, _, -, -, -, -, -, hwords⟩
  · exact hgap
  · exact absurd (h.symm.trans hwords) (by simp)

theorem words_eq_cons {cs w : List Char} {ws : List (List Char)} (h : words cs = w :: ws) :
    ∃ g rest, cs = g ++ w ++ rest ∧ Gap g ∧ Solid w ∧ w ≠ [] ∧ Open rest ∧ words rest = ws := by
  rcases words_cases cs with ⟨-, hwords⟩ | ⟨g, w', rest, hcs, hg, hsolid, hne, hopen, hwords⟩
  · exact absurd (h.symm.trans hwords) (by simp)
  · obtain ⟨rfl, rfl⟩ := List.cons.inj (hwords.symm.trans h)
    exact ⟨g, rest, hcs, hg, hsolid, hne, hopen, rfl⟩

/-! ### Trimming -/

theorem trimFront_append {g : List Char} (hg : Gap g) (cs : List Char) :
    trimFront (g ++ cs) = trimFront cs := by
  exact List.dropWhile_append_of_pos hg

theorem trimBack_append {g : List Char} (hg : Gap g) (cs : List Char) :
    trimBack (cs ++ g) = trimBack cs := by
  unfold trimBack
  rw [List.reverse_append, List.dropWhile_append_of_pos]
  intro c hc
  exact hg c (List.mem_reverse.mp hc)

theorem exists_trimFront (cs : List Char) : ∃ g, Gap g ∧ cs = g ++ trimFront cs :=
  ⟨cs.takeWhile isBlank, fun _ hc => List.mem_takeWhile_imp hc,
    List.takeWhile_append_dropWhile.symm⟩

theorem exists_trimBack (cs : List Char) : ∃ g, Gap g ∧ cs = trimBack cs ++ g := by
  refine ⟨(cs.reverse.takeWhile isBlank).reverse, ?_, ?_⟩
  · intro c hc
    exact List.mem_takeWhile_imp (List.mem_reverse.mp hc)
  · rw [trimBack, ← List.reverse_append, List.takeWhile_append_dropWhile, List.reverse_reverse]

/-- A text is what trimming leaves of it between two gaps. -/
theorem exists_trim (cs : List Char) : ∃ g h, Gap g ∧ Gap h ∧ cs = g ++ trim cs ++ h := by
  obtain ⟨g, hg, hfront⟩ := exists_trimFront cs
  obtain ⟨h, hh, hback⟩ := exists_trimBack (trimFront cs)
  refine ⟨g, h, hg, hh, ?_⟩
  calc cs = g ++ trimFront cs := hfront
    _ = g ++ (trim cs ++ h) := by rw [trim, ← hback]
    _ = g ++ trim cs ++ h := (List.append_assoc g (trim cs) h).symm

theorem trimBack_of_last {t : List Char} (hlast : ∀ c ∈ t.getLast?, isBlank c = false) : trimBack t = t := by
  have hreverse : t.reverse.dropWhile isBlank = t.reverse := by
    cases hr : t.reverse with
    | nil => rfl
    | cons c r =>
      have hc : isBlank c = false := by
        apply hlast
        rw [List.getLast?_eq_head?_reverse, hr]
        rfl
      simp [hc]
  rw [trimBack, hreverse, List.reverse_reverse]

/-- Trimming takes the gaps away from around a text that begins and ends without blanks. -/
theorem trim_append {g t h : List Char} (hg : Gap g) (hh : Gap h)
    (hfirst : ∀ c ∈ t.head?, isBlank c = false) (hlast : ∀ c ∈ t.getLast?, isBlank c = false) :
    trim (g ++ t ++ h) = t := by
  have hback : trimBack t = t := trimBack_of_last hlast
  rcases List.eq_nil_or_concat' t with rfl | ⟨t', c, rfl⟩
  · have hgap : Gap (g ++ [] ++ h) := (hg.append Gap.nil).append hh
    rw [trim, ← List.append_nil (g ++ [] ++ h), trimFront_append hgap]
    rfl
  · rw [trim, List.append_assoc, trimFront_append hg]
    have hkept : trimFront ((t' ++ [c]) ++ h) = (t' ++ [c]) ++ h := by
      cases t' with
      | nil => exact trimFront_of_not_blank _ (hfirst c (by simp))
      | cons d t' => exact trimFront_of_not_blank _ (hfirst d (by simp))
    rw [hkept, trimBack_append hh, hback]

theorem Solid.trim_eq {w : List Char} (h : Solid w) : trim w = w := by
  have htrim := trim_append Gap.nil Gap.nil (fun c hc => h c (List.mem_of_mem_head? hc))
    fun c hc => h c (List.mem_of_getLast? hc)
  rwa [List.append_nil, List.nil_append] at htrim

theorem trim_first (cs : List Char) : ∀ c ∈ (trim cs).head?, isBlank c = false := by
  intro c hc
  obtain ⟨t, ht⟩ : ∃ t, trim cs = c :: t := by
    cases hcs : trim cs with
    | nil => rw [hcs] at hc; cases hc
    | cons d t =>
      rw [hcs] at hc
      exact ⟨t, by rw [Option.mem_some.mp hc]⟩
  obtain ⟨h, -, hback⟩ := exists_trimBack (trimFront cs)
  have hshape : cs.dropWhile isBlank = c :: (t ++ h) := by
    change trimFront cs = c :: (t ++ h)
    rw [hback]
    change trim cs ++ h = c :: (t ++ h)
    rw [ht, List.cons_append]
  exact first_dropWhile isBlank cs c (by rw [hshape]; rfl)

theorem trimBack_last (cs : List Char) : ∀ c ∈ (trimBack cs).getLast?, isBlank c = false := by
  intro c hc
  rw [trimBack, List.getLast?_reverse] at hc
  exact first_dropWhile isBlank cs.reverse c hc

theorem trim_last (cs : List Char) : ∀ c ∈ (trim cs).getLast?, isBlank c = false :=
  trimBack_last (trimFront cs)

/-- A trimmed text has nothing more to trim. -/
theorem trim_trim (cs : List Char) : trim (trim cs) = trim cs := by
  have h := trim_append Gap.nil Gap.nil (trim_first cs) (trim_last cs)
  rwa [List.append_nil, List.nil_append] at h

/-- Gaps around a text do not change what trimming leaves of it. -/
theorem trim_between {g h : List Char} (hg : Gap g) (hh : Gap h) (cs : List Char) :
    trim (g ++ cs ++ h) = trim cs := by
  obtain ⟨a, b, ha, hb, hcs⟩ := exists_trim cs
  have hwhole : g ++ cs ++ h = (g ++ a) ++ trim cs ++ (b ++ h) := by
    conv_lhs => rw [hcs]
    simp
  rw [hwhole]
  exact trim_append (hg.append ha) (hb.append hh) (trim_first cs) (trim_last cs)

theorem words_trim (cs : List Char) : words (trim cs) = words cs := by
  obtain ⟨g, h, hg, hh, hcs⟩ := exists_trim cs
  conv_rhs => rw [hcs]
  rw [words_append_gap hh, words_gap_append hg]

theorem trimmed_trimmed (s : String) : trimmed (trimmed s) = trimmed s := by
  rw [trimmed, trimmed, String.toList_ofList, trim_trim]

/-! ### Cutting and joining -/

theorem first_cons {p : Char → Bool} {c : Char} (h : p c = false) (cs : List Char) :
    ∀ d ∈ (c :: cs).head?, p d = false := by
  intro d hd
  rwa [← Option.some.inj hd]

/-- Cutting off a run undoes putting it before a text that does not go on with it. -/
theorem span_append {p : Char → Bool} {run rest : List Char} (hrun : ∀ c ∈ run, p c = true)
    (hrest : ∀ c ∈ rest.head?, p c = false) : (run ++ rest).span p = (run, rest) := by
  have hnone : rest.takeWhile p = [] ∧ rest.dropWhile p = rest := by
    cases rest with
    | nil => exact ⟨rfl, rfl⟩
    | cons c rest =>
      have hc : p c = false := hrest c (by simp)
      simp [hc]
  rw [List.span_eq_takeWhile_dropWhile, List.takeWhile_append_of_pos hrun,
    List.dropWhile_append_of_pos hrun, hnone.1, hnone.2, List.append_nil]

theorem span_sound {p : Char → Bool} {cs run rest : List Char} (h : cs.span p = (run, rest)) :
    cs = run ++ rest ∧ ∀ c ∈ rest.head?, p c = false := by
  rw [List.span_eq_takeWhile_dropWhile] at h
  obtain ⟨rfl, rfl⟩ := Prod.mk.inj h
  exact ⟨List.takeWhile_append_dropWhile.symm, first_dropWhile p cs⟩

theorem splitAt_append {hit : Char → Bool} {p : List Char} (hp : ∀ c ∈ p, hit c = false)
    {sep : Char} (hsep : hit sep = true) (cs : List Char) :
    splitAt hit (p ++ sep :: cs) = p :: splitAt hit cs := by
  induction p with
  | nil => simp [splitAt, hsep]
  | cons c p ih =>
    have hc : hit c = false := hp c (by simp)
    have htail := ih fun x hx => hp x (by simp [hx])
    simp [splitAt, hc, htail]

theorem splitAt_of_none {hit : Char → Bool} {p : List Char} (hp : ∀ c ∈ p, hit c = false) :
    splitAt hit p = [p] := by
  induction p with
  | nil => rfl
  | cons c p ih =>
    have hc : hit c = false := hp c (by simp)
    have htail := ih fun x hx => hp x (by simp [hx])
    simp [splitAt, hc, htail]

/-- Pieces without a separator come back from the text that they are joined to. -/
theorem splitAt_joinWith {sep : Char} {ps : List (List Char)} (hps : ∀ p ∈ ps, sep ∉ p)
    (hne : ps ≠ []) : splitAt (· = sep) (joinWith [sep] ps) = ps := by
  have hit : ∀ p ∈ ps, ∀ c ∈ p, decide (c = sep) = false := by
    intro p hp c hc
    exact decide_eq_false fun e => hps p hp (e ▸ hc)
  induction ps with
  | nil => exact absurd rfl hne
  | cons p ps ih =>
    cases ps with
    | nil => exact splitAt_of_none (hit p (by simp))
    | cons q ps =>
      rw [joinWith, List.append_assoc, List.singleton_append,
        splitAt_append (hit p (by simp)) (by simp)]
      congr 1
      exact ih (fun r hr => hps r (by simp [hr])) (by simp) fun r hr => hit r (by simp [hr])

theorem joinWith_cons {sep p : List Char} {ps : List (List Char)} (hne : ps ≠ []) :
    joinWith sep (p :: ps) = p ++ sep ++ joinWith sep ps := by
  cases ps with
  | nil => exact absurd rfl hne
  | cons q ps => rfl

theorem joinWith_concat {sep p : List Char} {ps : List (List Char)} (hne : ps ≠ []) :
    joinWith sep (ps ++ [p]) = joinWith sep ps ++ sep ++ p := by
  induction ps with
  | nil => exact absurd rfl hne
  | cons q ps ih =>
    by_cases hnil : ps = []
    · subst hnil
      rfl
    · rw [List.cons_append, joinWith_cons (by simp), joinWith_cons hnil, ih hnil]
      simp

theorem append_joinWith {sep : List Char} {ps : List (List Char)} (hne : ps ≠ []) :
    sep ++ joinWith sep ps = ps.flatMap fun p => sep ++ p := by
  induction ps with
  | nil => exact absurd rfl hne
  | cons p ps ih =>
    by_cases hnil : ps = []
    · subst hnil
      simp [joinWith]
    · rw [joinWith_cons hnil, List.append_assoc, ih hnil, List.flatMap_cons, List.append_assoc]

theorem joinWith_append {sep : List Char} {ps : List (List Char)} (hne : ps ≠ []) :
    joinWith sep ps ++ sep = ps.flatMap fun p => p ++ sep := by
  induction ps with
  | nil => exact absurd rfl hne
  | cons p ps ih =>
    by_cases hnil : ps = []
    · subst hnil
      simp [joinWith]
    · rw [joinWith_cons hnil, List.append_assoc, ih hnil, List.flatMap_cons]

theorem mem_joinWith {sep : List Char} {ps : List (List Char)} {c : Char}
    (h : c ∈ joinWith sep ps) : c ∈ sep ∨ ∃ p ∈ ps, c ∈ p := by
  induction ps with
  | nil => cases h
  | cons p ps ih =>
    by_cases hne : ps = []
    · subst hne
      exact .inr ⟨p, by simp, h⟩
    · rw [joinWith_cons hne, List.append_assoc, List.mem_append, List.mem_append] at h
      rcases h with h | h | h
      · exact .inr ⟨p, by simp, h⟩
      · exact .inl h
      · rcases ih h with hsep | ⟨q, hq, hc⟩
        · exact .inl hsep
        · exact .inr ⟨q, by simp [hq], hc⟩

theorem mem_joinWith_of_mem {sep : List Char} {ls : List (List Char)} {l : List Char} {c : Char} (hl : l ∈ ls)
    (hc : c ∈ l) : c ∈ joinWith sep ls := by
  induction ls with
  | nil => cases hl
  | cons m ls ih =>
    by_cases hnil : ls = []
    · subst hnil
      rwa [List.mem_singleton.mp hl] at hc
    · rw [joinWith_cons hnil, List.append_assoc]
      rcases List.mem_cons.mp hl with rfl | hl
      · exact List.mem_append_left _ hc
      · exact List.mem_append_right _ (List.mem_append_right _ (ih hl))

theorem joinWith_leads (sep p : List Char) (ps : List (List Char)) :
    p <+: joinWith sep (p :: ps) := by
  cases ps with
  | nil => exact List.prefix_rfl
  | cons q ps =>
    rw [joinWith, List.append_assoc]
    exact List.prefix_append p _

/-- The pieces of a text are joined to the text. -/
theorem joinWith_splitAt (sep : Char) (cs : List Char) :
    joinWith [sep] (splitAt (· = sep) cs) = cs := by
  induction cs with
  | nil => rfl
  | cons c cs ih =>
    by_cases hc : c = sep
    · simp only [splitAt, hc, decide_true, if_true]
      rw [joinWith_cons (splitAt_ne_nil _ _), ih]
      rfl
    · simp only [splitAt, hc, decide_false, Bool.false_eq_true, if_false]
      cases hs : splitAt (· = sep) cs with
      | nil => exact absurd hs (splitAt_ne_nil _ _)
      | cons p ps =>
        rw [hs] at ih
        cases ps with
        | nil =>
          rw [joinWith] at ih ⊢
          rw [ih]
        | cons q ps =>
          rw [joinWith] at ih ⊢
          rw [← ih]
          simp

end MergeGate.Text
