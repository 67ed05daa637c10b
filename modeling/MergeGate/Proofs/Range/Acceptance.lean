import MergeGate.Proofs.Range.Meaning

/-
  MergeGate/Proofs/Range/Acceptance.lean
  ======================================
  **Which ranges compile, and what is said of the others.**  A text compiles exactly if each of its
  parts writes a clause.  Otherwise the error tells of the first part that writes none, and blames
  one word of it (`Blames`): an end of a hyphen range, or the first word that writes no simple once
  the gaps after signs are closed.

  The reader stops at the first failure twice, among the parts and among the words of a part.
  `FirstWithout` says which one that is.
-/

namespace MergeGate

open MergeGate.Text MergeGate.Version

/-! ### Identifiers -/

/-- A pre-release identifier of a range: a number of up to 16 digits of any script, or digits, a
    letter or hyphen, and any number of ASCII letters, ASCII digits and hyphens. -/
inductive WritesPreIdentifier : Identifier → Prop where
  | number {ds : List Char} (hne : ds ≠ []) (hds : ∀ d ∈ ds, isDigit d = true)
      (hlength : ds.length ≤ 16) : WritesPreIdentifier ds
  | word {ds cs : List Char} {c : Char} (hds : ∀ d ∈ ds, isDigit d = true)
      (hc : isAsciiLetter c = true ∨ c = '-') (hcs : ∀ d ∈ cs, isIdentifierChar d = true) :
      WritesPreIdentifier (ds ++ c :: cs)

theorem isDigit_eq_false_of_mark {c : Char} (hc : isAsciiLetter c = true ∨ c = '-') :
    isDigit c = false := by
  have hcode : c.toNat < 128 ∧ isAsciiDigit c = false := by
    rcases hc with hc | rfl
    · simp only [isAsciiLetter, Bool.or_eq_true, Bool.and_eq_true, decide_eq_true_eq] at hc
      simp only [isAsciiDigit, Bool.and_eq_false_iff, decide_eq_false_iff_not]
      omega
    · decide
  simp [isDigit, digitValue?, hcode.1, hcode.2]

theorem isRangePreIdentifier_iff (i : Identifier) :
    isRangePreIdentifier i = true ↔ WritesPreIdentifier i := by
  constructor
  · intro h
    unfold isRangePreIdentifier at h
    cases hrest : i.dropWhile isDigit with
    | nil =>
      rw [hrest] at h
      simp only [Bool.and_eq_true, decide_eq_true_eq] at h
      exact .number (List.length_pos_iff.mp h.1) (List.dropWhile_eq_nil_iff.mp hrest) h.2
    | cons c cs =>
      rw [hrest] at h
      simp only [Bool.and_eq_true, Bool.or_eq_true, decide_eq_true_eq, List.all_eq_true] at h
      rw [← List.takeWhile_append_dropWhile (p := isDigit) (l := i), hrest]
      exact .word (fun d hd => List.mem_takeWhile_imp hd) h.1 h.2
  · intro h
    unfold isRangePreIdentifier
    cases h with
    | number hne hds hlength =>
      rw [List.dropWhile_eq_nil_iff.mpr hds]
      simp only [Bool.and_eq_true, decide_eq_true_eq]
      exact ⟨List.length_pos_iff.mpr hne, hlength⟩
    | word hds hc hcs =>
      rw [List.dropWhile_append_of_pos hds,
        List.dropWhile_cons_of_neg (by simp [isDigit_eq_false_of_mark hc])]
      simp only [Bool.and_eq_true, Bool.or_eq_true, decide_eq_true_eq, List.all_eq_true]
      exact ⟨hc, hcs⟩

theorem isBuildIdentifier_iff (i : Identifier) :
    isBuildIdentifier i = true ↔ i ≠ [] ∧ ∀ c ∈ i, isIdentifierChar c = true := by
  simp [isBuildIdentifier]

/-! ### The first without a property -/

/-- A text writes some simple. -/
def IsSimple (t : List Char) : Prop := ∃ s, WritesSimple t s

/-- A text writes some end of a hyphen range. -/
def IsEnd (t : List Char) : Prop := ∃ p, WritesEnd t p

/-- A text writes some clause. -/
def IsClause (t : List Char) : Prop := ∃ c, WritesClause t c

/-- A text is the first of a row that lacks a property. -/
def FirstWithout (P : List Char → Prop) (ts : List (List Char)) (t : List Char) : Prop :=
  ∃ front back, ts = front ++ t :: back ∧ (∀ u ∈ front, P u) ∧ ¬ P t

theorem not_firstWithout_nil {P : List Char → Prop} {t : List Char} : ¬ FirstWithout P [] t := by
  rintro ⟨front, back, hts, -⟩
  simp at hts

theorem firstWithout_cons_of_not {P : List Char → Prop} {u : List Char} (hu : ¬ P u)
    (ts : List (List Char)) (t : List Char) : FirstWithout P (u :: ts) t ↔ t = u := by
  constructor
  · rintro ⟨front, back, hts, hfront, -⟩
    cases front with
    | nil => exact (List.cons.inj hts).1.symm
    | cons v front =>
      obtain rfl : u = v := (List.cons.inj hts).1
      exact absurd (hfront u (by simp)) hu
  · rintro rfl
    exact ⟨[], ts, rfl, by simp, hu⟩

theorem firstWithout_cons {P : List Char → Prop} {u : List Char} (hu : P u)
    (ts : List (List Char)) (t : List Char) :
    FirstWithout P (u :: ts) t ↔ FirstWithout P ts t := by
  constructor
  · rintro ⟨front, back, hts, hfront, ht⟩
    cases front with
    | nil =>
      obtain rfl : u = t := (List.cons.inj hts).1
      exact absurd hu ht
    | cons v front =>
      exact ⟨front, back, (List.cons.inj hts).2, fun w hw => hfront w (by simp [hw]), ht⟩
  · rintro ⟨front, back, rfl, hfront, ht⟩
    refine ⟨u :: front, back, rfl, ?_, ht⟩
    rw [List.forall_mem_cons]
    exact ⟨hu, hfront⟩

/-! ### Words -/

theorem closeGaps_solid {w : List Char} (hw : Solid w) (skipping : Bool) :
    closeGaps skipping w = w := by
  induction w generalizing skipping with
  | nil => rfl
  | cons c w ih =>
    rw [closeGaps_cons _ (hw c (by simp)), ih fun d hd => hw d (by simp [hd])]

/-- A word is read as a simple exactly if it writes the simple; it has no gaps to close. -/
theorem readSimple?_eq_some_iff {w : List Char} (hw : Solid w) (s : Sign × Partial) :
    readSimple? w = some s ↔ WritesSimple w s := by
  constructor
  · intro h
    obtain ⟨p, hp, rfl⟩ := Option.map_eq_some_iff.mp h
    obtain ⟨o, ho, hsign, -⟩ := readSign_sound w
    refine ⟨o, [], (readSign w).2, ?_, hsign, Gap.nil, fun _ => rfl, ?_⟩
    · rwa [List.append_nil]
    · exact (Partial.read?_eq_some_iff _ _).mp hp
  · intro h
    obtain ⟨w', hread, -, -, hclose⟩ := h.close
    have hwhole : closeGaps false w = w' := by
      simpa [closeGaps] using hclose []
    rw [closeGaps_solid hw] at hwhole
    rwa [hwhole]

theorem solid_of_mem_words {cs : List Char} {ws : List (List Char)} (h : words cs = ws) :
    ∀ w ∈ ws, Solid w := by
  induction ws generalizing cs with
  | nil => simp
  | cons w ws ih =>
    obtain ⟨g, rest, -, -, hsolid, -, -, hrest⟩ := words_eq_cons h
    rw [List.forall_mem_cons]
    exact ⟨hsolid, ih hrest⟩

theorem readSimples_eq_error_iff {ws : List (List Char)} (hws : ∀ w ∈ ws, Solid w)
    (e : RangeReason) :
    readSimples ws = .error e ↔ ∃ w, FirstWithout IsSimple ws w ∧ e = .unexpected w := by
  induction ws with
  | nil =>
    constructor
    · intro h
      cases h
    · rintro ⟨w, hw, -⟩
      exact absurd hw not_firstWithout_nil
  | cons v ws ih =>
    obtain ⟨hv, hws⟩ := List.forall_mem_cons.mp hws
    rw [readSimples_cons]
    cases hread : readSimple? v with
    | none =>
      have hnone : ¬ IsSimple v := by
        rintro ⟨s, hs⟩
        rw [(readSimple?_eq_some_iff hv s).mpr hs] at hread
        cases hread
      simp only [firstWithout_cons_of_not hnone, exists_eq_left, Except.error.injEq]
      exact eq_comm
    | some s =>
      have hsome : IsSimple v := ⟨s, (readSimple?_eq_some_iff hv s).mp hread⟩
      simp only [firstWithout_cons hsome, ← ih hws]
      cases readSimples ws <;> simp

/-! ### Parts -/

/-- What is said of a part that writes no clause.  If its words are two with a hyphen between, they
    are taken for the ends of a hyphen range, and the first that writes no end is to blame. -/
inductive Blames (part : List Char) : RangeReason → Prop where
  | low {low high : List Char} (hwords : words part = [low, ['-'], high])
      (hlow : ¬ IsEnd low) : Blames part (.notVersion low)
  | high {low high : List Char} (hwords : words part = [low, ['-'], high])
      (hlow : IsEnd low) (hhigh : ¬ IsEnd high) : Blames part (.notVersion high)
  | word {w : List Char} (hwords : ∀ low high, words part ≠ [low, ['-'], high])
      (hw : FirstWithout IsSimple (words (closeGaps false (trim part))) w) :
      Blames part (.unexpected w)

theorem readEnd?_eq_none_iff (cs : List Char) : readEnd? cs = none ↔ ¬ IsEnd cs := by
  simp only [IsEnd, ← readEnd?_eq_some_iff, ← Option.isSome_iff_exists, Bool.not_eq_true,
    Option.isSome_eq_false_iff, Option.isNone_iff_eq_none]

theorem Clause.read_eq_error_iff (part : List Char) (e : RangeReason) :
    Clause.read part = .error e ↔ Blames part e := by
  rw [Clause.read_eq]
  constructor
  · intro h
    split at h
    · rename_i low high hwords
      split at h
      · rename_i hlow
        cases h
        exact .low hwords ((readEnd?_eq_none_iff low).mp hlow)
      · rename_i l hlow
        have hends : IsEnd low := ⟨l, (readEnd?_eq_some_iff low l).mp hlow⟩
        split at h
        · rename_i hhigh
          cases h
          exact .high hwords hends ((readEnd?_eq_none_iff high).mp hhigh)
        · cases h
    · rename_i hwords
      split at h
      · rename_i e' he
        cases h
        obtain ⟨w, hw, rfl⟩ := (readSimples_eq_error_iff (solid_of_mem_words rfl) e).mp he
        exact .word hwords hw
      · cases h
  · intro h
    cases h with
    | low hwords hlow =>
      rw [hwords]
      simp only [(readEnd?_eq_none_iff _).mpr hlow]
    | high hwords hlow hhigh =>
      obtain ⟨l, hlow⟩ := hlow
      rw [hwords]
      simp only [(readEnd?_eq_some_iff _ l).mpr hlow, (readEnd?_eq_none_iff _).mpr hhigh]
    | word hwords hw =>
      split
      · rename_i low high hbetween
        exact absurd hbetween (hwords low high)
      · rw [(readSimples_eq_error_iff (solid_of_mem_words rfl) _).mpr ⟨_, hw, rfl⟩]

theorem readClauses_eq_error_iff (ps : List (List Char)) (e : RangeReason) :
    readClauses ps = .error e ↔ ∃ p, FirstWithout IsClause ps p ∧ Blames p e := by
  induction ps with
  | nil =>
    constructor
    · intro h
      cases h
    · rintro ⟨p, hp, -⟩
      exact absurd hp not_firstWithout_nil
  | cons q ps ih =>
    rw [readClauses_cons]
    cases hread : Clause.read q with
    | error e' =>
      have hnone : ¬ IsClause q := by
        rintro ⟨c, hc⟩
        rw [(Clause.read_eq_ok_iff q c).mpr hc] at hread
        cases hread
      simp only [firstWithout_cons_of_not hnone, exists_eq_left, ← Clause.read_eq_error_iff,
        hread, Except.error.injEq]
    | ok c =>
      have hsome : IsClause q := ⟨c, (Clause.read_eq_ok_iff q c).mp hread⟩
      simp only [firstWithout_cons hsome, ← ih]
      cases readClauses ps <;> simp

/-! ### Ranges -/

theorem exists_forall₂_writesClause_iff (ps : List (List Char)) :
    (∃ cs, List.Forall₂ WritesClause ps cs) ↔ ∀ p ∈ ps, IsClause p := by
  induction ps with
  | nil => exact ⟨fun _ => by simp, fun _ => ⟨[], .nil⟩⟩
  | cons p ps ih =>
    rw [List.forall_mem_cons, ← ih]
    constructor
    · rintro ⟨cs, hcs⟩
      cases hcs with
      | cons hc hcs => exact ⟨⟨_, hc⟩, ⟨_, hcs⟩⟩
    · rintro ⟨⟨c, hc⟩, ⟨cs, hcs⟩⟩
      exact ⟨c :: cs, .cons hc hcs⟩

theorem Range.exists_parse_eq_ok_iff (s : String) :
    (∃ r, Range.parse s = .ok r) ↔ ∃ cs, WritesRange s.toList cs := by
  constructor
  · rintro ⟨r, hr⟩
    obtain ⟨cs, hcs, -⟩ := (Range.parse_eq_ok_iff s r).mp hr
    exact ⟨cs, hcs⟩
  · rintro ⟨cs, hcs⟩
    exact ⟨_, (Range.parse_eq_ok_iff s _).mpr ⟨cs, hcs, rfl⟩⟩

theorem Range.parse_eq_error_iff (s : String) (e : RangeError) :
    Range.parse s = .error e ↔
      e.range = s ∧ readClauses (splitBars s.toList) = .error e.reason := by
  rw [Range.parse_eq]
  cases hread : readClauses (splitBars s.toList) with
  | error reason =>
    simp only [Except.error.injEq]
    constructor
    · rintro rfl
      exact ⟨rfl, rfl⟩
    · rintro ⟨rfl, rfl⟩
      rfl
  | ok cs => simp

/-- **Ranges compile exactly if the grammar has them.**  A text compiles if it is joined of parts
    with double bars between them that each write a clause; the parts that the reader cuts it into
    will do.  Every other text is an error, which carries the whole text and tells of the first part
    that writes no clause.  The last two say what the grammar's identifiers are. -/
theorem Range.parse_accepts_grammar (s : String) :
    ((∃ r, Range.parse s = .ok r) ↔ ∀ part ∈ splitBars s.toList, IsClause part) ∧
    ((∃ r, Range.parse s = .ok r) ↔
      ∃ parts, parts ≠ [] ∧ s.toList = joinWith ['|', '|'] parts ∧ ∀ part ∈ parts, IsClause part) ∧
    ((∃ e, Range.parse s = .error e) ↔ ∃ part ∈ splitBars s.toList, ¬ IsClause part) ∧
    (∀ e, Range.parse s = .error e ↔ e.range = s ∧
      ∃ part, FirstWithout IsClause (splitBars s.toList) part ∧ Blames part e.reason) ∧
    (∀ i, isRangePreIdentifier i = true ↔ WritesPreIdentifier i) ∧
    (∀ i, isBuildIdentifier i = true ↔ i ≠ [] ∧ ∀ c ∈ i, isIdentifierChar c = true) := by
  have hparts : (∃ r, Range.parse s = .ok r) ↔ ∀ part ∈ splitBars s.toList, IsClause part := by
    rw [Range.exists_parse_eq_ok_iff, ← exists_forall₂_writesClause_iff]
    simp only [← readClauses_splitBars_iff, readClauses_eq_ok_iff]
  refine ⟨hparts, ?_, ?_, ?_, isRangePreIdentifier_iff, isBuildIdentifier_iff⟩
  · rw [Range.exists_parse_eq_ok_iff]
    constructor
    · rintro ⟨cs, ps, hne, hjoined, hps⟩
      exact ⟨ps, hne, hjoined, (exists_forall₂_writesClause_iff ps).mp ⟨cs, hps⟩⟩
    · rintro ⟨ps, hne, hjoined, hps⟩
      obtain ⟨cs, hcs⟩ := (exists_forall₂_writesClause_iff ps).mpr hps
      exact ⟨cs, ps, hne, hjoined, hcs⟩
  · have hother : (∃ e, Range.parse s = .error e) ↔ ¬ ∃ r, Range.parse s = .ok r := by
      cases Range.parse s <;> simp
    rw [hother, hparts]
    simp only [not_forall, exists_prop]
  · intro e
    rw [Range.parse_eq_error_iff, readClauses_eq_error_iff]

/-- Closing gaps joins a caret to a sign that it may not stand before. -/
example : Range.parse "1 - 2 || ^ >3" =
    .error ⟨"1 - 2 || ^ >3", .unexpected ['^', '>', '3']⟩ := by rfl

end MergeGate
