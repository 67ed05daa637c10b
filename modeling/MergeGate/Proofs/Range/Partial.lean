import MergeGate.Proofs.Range.Grammar

/-
  MergeGate/Proofs/Range/Partial.lean
  ===================================
  **Reading partial versions.**  `Partial.read?` reads a text as a partial version exactly if the
  text writes it (`Partial.read?_eq_some_iff`), and such a text is never empty, consists of plain
  characters and does not begin with a hyphen (`WritesPartial.plain`, `WritesPartial.first`).

  Each part is treated in two steps.  What a reader accepts is written as the grammar says, up to
  the rest that it hands on; and what the grammar writes is read whole before any rest with which
  it could not be confused.
-/

namespace MergeGate

open MergeGate.Text MergeGate.Version

/-! ### Numbers -/

theorem isAsciiDigit_apart {c : Char} (h : isAsciiDigit c = true) :
    ¬ (c = 'x' ∨ c = 'X' ∨ c = '*') ∧ c ≠ 'v' ∧ c ≠ '-' := by
  simp only [isAsciiDigit, Bool.and_eq_true, decide_eq_true_eq] at h
  refine ⟨?_, ?_, ?_⟩
  · rintro (rfl | rfl | rfl) <;> simp at h
  · rintro rfl
    simp at h
  · rintro rfl
    simp at h

theorem readNumber?_sound {cs rest : List Char} {a : Option Nat}
    (h : readNumber? cs = some (a, rest)) : ∃ t, cs = t ++ rest ∧ WritesNumber t a := by
  cases cs with
  | nil => cases h
  | cons c cs =>
    simp only [readNumber?_cons, Bool.or_eq_true, decide_eq_true_eq] at h
    by_cases hwild : (c = 'x' ∨ c = 'X') ∨ c = '*'
    · rw [if_pos hwild] at h
      cases h
      exact ⟨[c], rfl, .wildcard (or_assoc.mp hwild)⟩
    · rw [if_neg hwild] at h
      by_cases hzero : c = '0'
      · rw [if_pos hzero] at h
        cases h
        exact ⟨['0'], by rw [hzero]; rfl, .zero⟩
      · rw [if_neg hzero] at h
        by_cases hdigit : isAsciiDigit c = true
        · rw [if_pos hdigit, List.span_eq_takeWhile_dropWhile] at h
          by_cases hlength : (cs.takeWhile isDigit).length < maxDigits
          · rw [if_pos hlength] at h
            cases h
            have hds : ∀ d ∈ cs.takeWhile isDigit, isDigit d = true :=
              fun d hd => List.mem_takeWhile_imp hd
            refine ⟨c :: cs.takeWhile isDigit, ?_, .digits hdigit hzero hds hlength⟩
            rw [List.cons_append, List.takeWhile_append_dropWhile]
          · rw [if_neg hlength] at h
            cases h
        · rw [if_neg hdigit] at h
          cases h

theorem readNumber?_append {t rest : List Char} {a : Option Nat} (h : WritesNumber t a)
    (hrest : ∀ c ∈ rest.head?, isDigit c = false) :
    readNumber? (t ++ rest) = some (a, rest) := by
  cases h with
  | wildcard hc =>
    have hwild : (_ = 'x' ∨ _ = 'X') ∨ _ = '*' := or_assoc.mpr hc
    simp [readNumber?_cons, hwild]
  | zero => rfl
  | @digits c ds hc hzero hds hlength =>
    have hwild : ¬ ((c = 'x' ∨ c = 'X') ∨ c = '*') :=
      fun hwild => (isAsciiDigit_apart hc).1 (or_assoc.mp hwild)
    simp only [List.cons_append, readNumber?_cons, Bool.or_eq_true, decide_eq_true_eq, hwild, hzero, hc,
      if_true, if_false, span_append hds hrest, hlength]

theorem readNumber?_whole {t : List Char} {a : Option Nat} (h : WritesNumber t a) :
    readNumber? t = some (a, []) := by
  have hread : readNumber? (t ++ []) = some (a, []) := readNumber?_append h (by simp)
  rwa [List.append_nil] at hread

/-- A number is not empty, it begins with neither a `v` nor a hyphen, and it is plain. -/
theorem WritesNumber.plain {t : List Char} {a : Option Nat} (h : WritesNumber t a) :
    (∃ c ds, t = c :: ds ∧ c ≠ 'v' ∧ c ≠ '-') ∧ ∀ c ∈ t, IsPlain c := by
  cases h with
  | wildcard hc =>
    rcases hc with rfl | rfl | rfl <;>
      exact ⟨⟨_, _, rfl, by decide, by decide⟩, by simp [IsPlain]; decide⟩
  | zero => exact ⟨⟨_, _, rfl, by decide, by decide⟩, by simp [IsPlain]; decide⟩
  | digits hc _ hds _ =>
    refine ⟨⟨_, _, rfl, (isAsciiDigit_apart hc).2⟩, ?_⟩
    intro d hd
    rcases List.mem_cons.mp hd with rfl | hd
    · exact isPlain_of_isAsciiDigit hc
    · exact isPlain_of_isDigit (hds d hd)

/-! ### Marks -/

/-- The characters of identifiers, those of numbers in any script included. -/
def IsWordChar (c : Char) : Prop := isDigit c = true ∨ isIdentifierChar c = true

theorem isWordChar_of_build {i : Identifier} (h : isBuildIdentifier i = true) :
    ∀ c ∈ i, IsWordChar c := by
  simp only [isBuildIdentifier, Bool.and_eq_true, List.all_eq_true] at h
  exact fun c hc => .inr (h.2 c hc)

theorem isWordChar_of_rangePre {i : Identifier} (h : isRangePreIdentifier i = true) :
    ∀ c ∈ i, IsWordChar c := by
  intro c hc
  rw [← List.takeWhile_append_dropWhile (p := isDigit) (l := i), List.mem_append] at hc
  rcases hc with hc | hc
  · exact .inl (List.mem_takeWhile_imp hc)
  · unfold isRangePreIdentifier at h
    cases hd : i.dropWhile isDigit with
    | nil =>
      rw [hd] at hc
      cases hc
    | cons d ds =>
      rw [hd] at h hc
      simp only [Bool.and_eq_true, Bool.or_eq_true, decide_eq_true_eq, List.all_eq_true] at h
      rcases List.mem_cons.mp hc with rfl | hc
      · refine .inr ?_
        rcases h.1 with h | h
        · simp [isIdentifierChar, h]
        · simp [isIdentifierChar, h]
      · exact .inr (h.2 c hc)

theorem isPlain_of_isIdentifierChar {c : Char} (h : isIdentifierChar c = true) : IsPlain c := by
  simp only [isIdentifierChar, isAsciiLetter, Bool.or_eq_true, Bool.and_eq_true,
    decide_eq_true_eq] at h
  rcases h with (h | h) | rfl
  · refine ⟨?_, ?_, ?_⟩
    · simp only [isBlank, Bool.or_eq_false_iff, Bool.and_eq_false_iff, decide_eq_false_iff_not,
        beq_eq_false_iff_ne]
      omega
    · simp only [isSignChar, Bool.or_eq_false_iff, decide_eq_false_iff_not]
      refine ⟨⟨⟨⟨?_, ?_⟩, ?_⟩, ?_⟩, ?_⟩ <;> rintro rfl <;> simp at h
    · simp only [isSeparator, Bool.or_eq_false_iff, decide_eq_false_iff_not]
      refine ⟨?_, ?_⟩ <;> rintro rfl <;> simp at h
  · exact isPlain_of_isAsciiDigit h
  · simp only [IsPlain]
    decide

theorem IsWordChar.plain {c : Char} (h : IsWordChar c) : IsPlain c := by
  rcases h with h | h
  · exact isPlain_of_isDigit h
  · exact isPlain_of_isIdentifierChar h

theorem IsWordChar.apart {c : Char} (h : IsWordChar c) : c ≠ '.' ∧ c ≠ '+' := by
  have hnot : ∀ d : Char, isDigit d = false → isIdentifierChar d = false → c ≠ d := by
    rintro d hd hd' rfl
    rcases h with h | h
    · exact absurd (hd.symm.trans h) Bool.false_ne_true
    · exact absurd (hd'.symm.trans h) Bool.false_ne_true
  exact ⟨hnot '.' (by decide) (by decide), hnot '+' (by decide) (by decide)⟩

theorem identifiersText_plain {is : List Identifier} (h : ∀ i ∈ is, ∀ c ∈ i, IsWordChar c) :
    ∀ c ∈ identifiersText is, IsPlain c ∧ c ≠ '+' := by
  intro c hc
  rcases mem_joinWith hc with hc | ⟨i, hi, hc⟩
  · rw [List.mem_singleton.mp hc]
    simp only [IsPlain]
    decide
  · exact ⟨(h i hi c hc).plain, (h i hi c hc).apart.2⟩

theorem splitAt_identifiersText {is : List Identifier} (h : ∀ i ∈ is, ∀ c ∈ i, IsWordChar c)
    (hne : is ≠ []) : splitAt (· = '.') (identifiersText is) = is := by
  apply splitAt_joinWith
  · intro i hi hc
    exact (h i hi '.' hc).apart.1 rfl
  · exact hne

theorem WritesMarked.plain {mark : Char} {isAllowed : Identifier → Bool} {t : List Char}
    {is : List Identifier} (h : WritesMarked mark isAllowed t is) (hmark : IsPlain mark)
    (hallowed : ∀ i, isAllowed i = true → ∀ c ∈ i, IsWordChar c) : ∀ c ∈ t, IsPlain c := by
  rcases h with ⟨-, rfl⟩ | ⟨-, his, rfl⟩
  · simp
  · intro c hc
    rcases List.mem_cons.mp hc with rfl | hc
    · exact hmark
    · exact (identifiersText_plain (fun i hi => hallowed i (his i hi)) c hc).1

theorem WritesMarks.plain {t : List Char} {pre build : List Identifier}
    (h : WritesMarks t pre build) : ∀ c ∈ t, IsPlain c := by
  obtain ⟨t₁, t₂, h₁, h₂, rfl⟩ := h
  intro c hc
  rcases List.mem_append.mp hc with hc | hc
  · exact h₁.plain (by simp only [IsPlain]; decide) (fun _ => isWordChar_of_rangePre) c hc
  · exact h₂.plain (by simp only [IsPlain]; decide) (fun _ => isWordChar_of_build) c hc

/-- Marks begin with a hyphen or a plus, if there are any. -/
theorem WritesMarked.first_append {isPre isBuild : Identifier → Bool} {t₁ t₂ : List Char}
    {pre build : List Identifier} (h₁ : WritesMarked '-' isPre t₁ pre)
    (h₂ : WritesMarked '+' isBuild t₂ build) : ∀ c ∈ (t₁ ++ t₂).head?, c = '-' ∨ c = '+' := by
  rcases h₁ with ⟨-, rfl⟩ | ⟨-, -, rfl⟩
  · rcases h₂ with ⟨-, rfl⟩ | ⟨-, -, rfl⟩ <;> simp
  · simp

theorem readBuild?_eq_some_iff {rest : List Char} (hrest : ∀ c ∈ rest.head?, c = '+')
    (build : List Identifier) :
    readBuild? isBuildIdentifier rest = some build ↔
      WritesMarked '+' isBuildIdentifier rest build := by
  cases rest with
  | nil =>
    constructor
    · intro h
      cases h
      exact .inl ⟨rfl, rfl⟩
    · rintro (⟨rfl, -⟩ | ⟨-, -, h⟩)
      · rfl
      · cases h
  | cons c bs =>
    obtain rfl : c = '+' := hrest c (by simp)
    rw [readBuild?]
    constructor
    · intro h
      by_cases hall : (splitAt (· = '.') bs).all isBuildIdentifier = true
      · rw [if_pos hall] at h
        cases h
        refine .inr ⟨splitAt_ne_nil _ _, List.all_eq_true.mp hall, ?_⟩
        rw [identifiersText, joinWith_splitAt]
      · rw [if_neg hall] at h
        cases h
    · rintro (⟨-, h⟩ | ⟨hne, hall, h⟩)
      · cases h
      · obtain rfl : bs = identifiersText build := (List.cons.inj h).2
        have hchars : ∀ i ∈ build, ∀ c ∈ i, IsWordChar c :=
          fun i hi => isWordChar_of_build (hall i hi)
        rw [splitAt_identifiersText hchars hne, if_pos (List.all_eq_true.mpr hall)]

theorem readMarks?_sound {isPre : Identifier → Bool} {cs : List Char}
    {pre build : List Identifier}
    (h : readMarks? isPre isBuildIdentifier cs = some (pre, build)) :
    ∃ t₁ t₂, WritesMarked '-' isPre t₁ pre ∧ WritesMarked '+' isBuildIdentifier t₂ build ∧
      cs = t₁ ++ t₂ := by
  unfold readMarks? at h
  split at h
  · cases h
    exact ⟨[], [], .inl ⟨rfl, rfl⟩, .inl ⟨rfl, rfl⟩, rfl⟩
  · rename_i rest
    rw [List.span_eq_takeWhile_dropWhile] at h
    by_cases hall : (splitAt (· = '.') (rest.takeWhile (· ≠ '+'))).all isPre = true
    · rw [if_pos hall] at h
      obtain ⟨b, hb, hpair⟩ := Option.map_eq_some_iff.mp h
      cases hpair
      have hplus : ∀ c ∈ (rest.dropWhile (· ≠ '+')).head?, c = '+' := by
        intro c hc
        simpa using first_dropWhile _ rest c hc
      refine ⟨'-' :: rest.takeWhile (· ≠ '+'), rest.dropWhile (· ≠ '+'), .inr ⟨?_, ?_, ?_⟩,
        (readBuild?_eq_some_iff hplus build).mp hb, ?_⟩
      · exact splitAt_ne_nil _ _
      · exact List.all_eq_true.mp hall
      · rw [identifiersText, joinWith_splitAt]
      · rw [List.cons_append, List.takeWhile_append_dropWhile]
    · rw [if_neg hall] at h
      cases h
  · rename_i rest
    obtain ⟨b, hb, hpair⟩ := Option.map_eq_some_iff.mp h
    cases hpair
    exact ⟨[], '+' :: rest, .inl ⟨rfl, rfl⟩,
      (readBuild?_eq_some_iff (by simp) build).mp hb, rfl⟩
  · cases h

theorem readMarks?_complete {isPre : Identifier → Bool}
    (hisPre : ∀ i, isPre i = true → ∀ c ∈ i, IsWordChar c) {t₁ t₂ : List Char}
    {pre build : List Identifier} (h₁ : WritesMarked '-' isPre t₁ pre)
    (h₂ : WritesMarked '+' isBuildIdentifier t₂ build) :
    readMarks? isPre isBuildIdentifier (t₁ ++ t₂) = some (pre, build) := by
  rcases h₁ with ⟨rfl, rfl⟩ | ⟨hne, hpre, rfl⟩
  · rcases h₂ with ⟨rfl, rfl⟩ | ⟨hne, hall, rfl⟩
    · rfl
    · have hread : readBuild? isBuildIdentifier ('+' :: identifiersText build) = some build :=
        (readBuild?_eq_some_iff (by simp) build).mpr (.inr ⟨hne, hall, rfl⟩)
      rw [List.nil_append, readMarks?, hread]
      rfl
  · have hplus : ∀ c ∈ t₂.head?, c = '+' := by
      rcases h₂ with ⟨-, rfl⟩ | ⟨-, -, rfl⟩ <;> simp
    have hchars : ∀ i ∈ pre, ∀ c ∈ i, IsWordChar c := fun i hi => hisPre i (hpre i hi)
    have hspan : (identifiersText pre ++ t₂).span (· ≠ '+') = (identifiersText pre, t₂) := by
      apply span_append
      · intro c hc
        exact decide_eq_true (identifiersText_plain hchars c hc).2
      · intro c hc
        exact decide_eq_false (not_not.mpr (hplus c hc))
    rw [List.cons_append, readMarks?]
    simp only [hspan, splitAt_identifiersText hchars hne, List.all_eq_true.mpr hpre, if_true,
      (readBuild?_eq_some_iff hplus build).mpr h₂, Option.map_some]

/-! ### Partial versions -/

theorem WritesNumber.first_ne {t : List Char} {a : Option Nat} (h : WritesNumber t a)
    (rest : List Char) : ∃ c ds, t ++ rest = c :: ds ∧ c ≠ 'v' ∧ c ≠ '-' := by
  obtain ⟨⟨c, ds, rfl, hc⟩, -⟩ := h.plain
  exact ⟨c, ds ++ rest, rfl, hc⟩

theorem WritesNumbers.first {t : List Char} {p : Partial} (h : WritesNumbers t p) :
    ∃ c ds, t = c :: ds ∧ c ≠ 'v' ∧ c ≠ '-' := by
  cases h with
  | one ha => exact ha.plain.1
  | two ha _ => exact ha.first_ne _
  | three ha _ _ _ => exact ha.first_ne _

theorem isPlain_point : IsPlain '.' := by
  simp only [IsPlain]
  decide

theorem WritesNumbers.plain {t : List Char} {p : Partial} (h : WritesNumbers t p) :
    ∀ c ∈ t, IsPlain c := by
  intro c hc
  cases h with
  | one ha => exact ha.plain.2 c hc
  | two ha hb =>
    rcases List.mem_append.mp hc with hc | hc
    · exact ha.plain.2 c hc
    · rcases List.mem_cons.mp hc with rfl | hc
      · exact isPlain_point
      · exact hb.plain.2 c hc
  | three ha hb hc' hm =>
    simp only [List.mem_append, List.mem_cons] at hc
    rcases hc with hc | rfl | hc | rfl | hc | hc
    · exact ha.plain.2 c hc
    · exact isPlain_point
    · exact hb.plain.2 c hc
    · exact isPlain_point
    · exact hc'.plain.2 c hc
    · exact hm.plain c hc

/-- A text that writes a partial version consists of plain characters. -/
theorem WritesPartial.plain {t : List Char} {p : Partial} (h : WritesPartial t p) :
    ∀ c ∈ t, IsPlain c := by
  rcases h with h | ⟨u, rfl, h⟩
  · exact h.plain
  · intro c hc
    rcases List.mem_cons.mp hc with rfl | hc
    · simp only [IsPlain]
      decide
    · exact h.plain c hc

/-- A text that writes a partial version is not empty and does not begin with a hyphen. -/
theorem WritesPartial.first {t : List Char} {p : Partial} (h : WritesPartial t p) :
    ∃ c ds, t = c :: ds ∧ c ≠ '-' := by
  rcases h with h | ⟨u, rfl, -⟩
  · obtain ⟨c, ds, rfl, -, hc⟩ := h.first
    exact ⟨c, ds, rfl, hc⟩
  · exact ⟨'v', u, rfl, by decide⟩

theorem Partial.writesNumbers_of_read? {cs : List Char} {p : Partial} (hread : Partial.read? cs = some p) :
    WritesNumbers (dropV cs) p := by
  rw [Partial.read?_eq] at hread
  split at hread
  · rename_i a ha
    obtain ⟨t, ht, hwrites⟩ := readNumber?_sound ha
    cases hread
    rw [ht, List.append_nil]
    exact .one hwrites
  · rename_i a cs₁ ha
    obtain ⟨t, ht, hwa⟩ := readNumber?_sound ha
    rw [ht]
    split at hread
    · rename_i b hb
      obtain ⟨u, hu, hwb⟩ := readNumber?_sound hb
      cases hread
      rw [hu, List.append_nil]
      exact .two hwa hwb
    · rename_i b cs₂ hb
      obtain ⟨u, rfl, hwb⟩ := readNumber?_sound hb
      split at hread
      · rename_i c cs₃ hc
        obtain ⟨w, rfl, hwc⟩ := readNumber?_sound hc
        obtain ⟨⟨pre, build⟩, hm, hp⟩ := Option.map_eq_some_iff.mp hread
        rw [← hp]
        exact .three hwa hwb hwc (readMarks?_sound hm)
      · cases hread
    · cases hread
  · cases hread

theorem WritesNumbers.read? {cs ds : List Char} {p : Partial} (hwrites : WritesNumbers ds p) (h : dropV cs = ds) :
    Partial.read? cs = some p := by
  have hpoint : ∀ rest, ∀ c ∈ ('.' :: rest).head?, isDigit c = false :=
    fun rest => first_cons (by decide) rest
  rw [Partial.read?_eq]
  rw [h]
  cases hwrites with
  | one ha => rw [readNumber?_whole ha]
  | two ha hb =>
    rw [readNumber?_append ha (hpoint _)]
    simp only [readNumber?_whole hb]
  | three ha hb hc hm =>
    obtain ⟨t₁, t₂, h₁, h₂, rfl⟩ := hm
    have hmarks : ∀ c ∈ (t₁ ++ t₂).head?, isDigit c = false := by
      intro c hc
      rcases h₁.first_append h₂ c hc with rfl | rfl <;> decide
    rw [readNumber?_append ha (hpoint _)]
    simp only [readNumber?_append hb (hpoint _), readNumber?_append hc hmarks,
      readMarks?_complete (fun _ => isWordChar_of_rangePre) h₁ h₂, Option.map_some]

/-- What follows the `v`, if there is one, is read as the grammar writes numbers. -/
theorem Partial.read?_eq_some_iff_of_dropV {cs ds : List Char} (h : dropV cs = ds) (p : Partial) :
    Partial.read? cs = some p ↔ WritesNumbers ds p :=
  ⟨fun hread => h ▸ writesNumbers_of_read? hread, fun hwrites => hwrites.read? h⟩

/-- A text is read as a partial version exactly if it writes it. -/
theorem Partial.read?_eq_some_iff (cs : List Char) (p : Partial) :
    Partial.read? cs = some p ↔ WritesPartial cs p := by
  by_cases hv : ∃ u, cs = 'v' :: u
  · obtain ⟨u, rfl⟩ := hv
    rw [Partial.read?_eq_some_iff_of_dropV rfl]
    constructor
    · exact fun h => .inr ⟨u, rfl, h⟩
    · rintro (h | ⟨u', hu, h⟩)
      · obtain ⟨c, ds, hcs, hc, -⟩ := h.first
        exact absurd (List.cons.inj hcs).1.symm hc
      · rwa [(List.cons.inj hu).2]
  · have hdrop : dropV cs = cs := by
      unfold dropV
      split
      · exact absurd ⟨_, rfl⟩ hv
      · rfl
    rw [Partial.read?_eq_some_iff_of_dropV hdrop]
    constructor
    · exact .inl
    · rintro (h | ⟨u, hu, -⟩)
      · exact h
      · exact absurd ⟨u, hu⟩ hv

end MergeGate
