import MergeGate.Proofs.Range.Partial
import MergeGate.Proofs.Text.Numeral

/-
  MergeGate/Proofs/Version/Complete.lean
  ======================================
  **Complete versions and their texts.**  The identifiers of a complete version obey rules
  (`Version.IsComplete`), and a version that obeys them is written in one way only: a text is read as
  the version exactly if it is the version's own text (`Version.read?_eq_some_iff`).  So reading
  takes nothing but what writing gives, and keeps all of it.
-/

namespace MergeGate

open MergeGate.Text MergeGate.Version

/-! ### Identifiers -/

/-- A pre-release identifier of a complete version: letters, digits and hyphens, and no zero before
    other digits if there are only digits. -/
structure IsStrictPre (i : Identifier) : Prop where
  ne_nil : i ≠ []
  chars : ∀ c ∈ i, isIdentifierChar c = true
  zero : (∀ c ∈ i, isAsciiDigit c = true) → i.head? = some '0' → i = ['0']

theorem isPreIdentifier_iff (i : Identifier) : isPreIdentifier i = true ↔ IsStrictPre i := by
  simp only [isPreIdentifier, isBuildIdentifier, Bool.and_eq_true, Bool.or_eq_true,
    Bool.not_eq_true', List.isEmpty_eq_false_iff, List.all_eq_true, List.all_eq_false,
    decide_eq_true_eq]
  constructor
  · rintro ⟨⟨hne, hchars⟩, hzero⟩
    refine ⟨hne, hchars, ?_⟩
    intro hdigits hfirst
    rcases hzero with (⟨c, hc, hnot⟩ | hzero) | hother
    · exact absurd (hdigits c hc) hnot
    · exact hzero
    · exact absurd hfirst hother
  · rintro ⟨hne, hchars, hzero⟩
    refine ⟨⟨hne, hchars⟩, ?_⟩
    by_cases hdigits : ∀ c ∈ i, isAsciiDigit c = true
    · by_cases hfirst : i.head? = some '0'
      · exact .inl (.inr (hzero hdigits hfirst))
      · exact .inr hfirst
    · simp only [not_forall, exists_prop] at hdigits
      exact .inl (.inl hdigits)

/-- A version whose identifiers are those of a complete version. -/
structure Version.IsComplete (v : Version) : Prop where
  pre : ∀ i ∈ v.pre, IsStrictPre i
  build : ∀ i ∈ v.build, i ≠ [] ∧ ∀ c ∈ i, isIdentifierChar c = true

theorem isWordChar_of_pre {i : Identifier} (h : isPreIdentifier i = true) :
    ∀ c ∈ i, IsWordChar c :=
  fun c hc => .inr (((isPreIdentifier_iff i).mp h).chars c hc)

/-! ### Marks -/

/-- There is one way to write identifiers after a mark. -/
theorem writesMarked_iff (mark : Char) (isAllowed : Identifier → Bool) (t : List Char)
    (is : List Identifier) :
    WritesMarked mark isAllowed t is ↔ (∀ i ∈ is, isAllowed i = true) ∧
      t = marked mark (if is.isEmpty then none else some (identifiersText is)) := by
  cases is with
  | nil => simp [WritesMarked, marked]
  | cons i is => simp [WritesMarked, marked]

/-- The text of a version: three numbers, and the marks. -/
theorem Version.text_eq (v : Version) :
    v.text = numeral v.major ++ '.' :: (numeral v.minor ++ '.' :: (numeral v.patch ++
      (marked '-' v.preText? ++ marked '+' v.buildText?))) := by
  simp [Version.text]

/-- The marks of a version whose identifiers pass the test begin with a hyphen or a plus. -/
theorem Version.first_marks (v : Version) :
    ∀ c ∈ (marked '-' v.preText? ++ marked '+' v.buildText?).head?, c = '-' ∨ c = '+' := by
  have hpre : WritesMarked '-' (fun _ => true) (marked '-' v.preText?) v.pre :=
    (writesMarked_iff _ _ _ _).mpr ⟨by simp, rfl⟩
  have hbuild : WritesMarked '+' (fun _ => true) (marked '+' v.buildText?) v.build :=
    (writesMarked_iff _ _ _ _).mpr ⟨by simp, rfl⟩
  exact hpre.first_append hbuild

/-- A version whose identifiers consist of word characters has a text of plain characters. -/
theorem Version.text_plain {v : Version} (hpre : ∀ i ∈ v.pre, ∀ c ∈ i, IsWordChar c)
    (hbuild : ∀ i ∈ v.build, ∀ c ∈ i, IsWordChar c) : ∀ c ∈ v.text, IsPlain c := by
  have hnumeral : ∀ n, ∀ c ∈ numeral n, IsPlain c :=
    fun n c hc => isPlain_of_isAsciiDigit (isAsciiDigit_of_mem_numeral hc)
  have hmarked : ∀ mark is, IsPlain mark → (∀ i ∈ is, ∀ c ∈ i, IsWordChar c) →
      ∀ c ∈ marked mark (if is.isEmpty then none else some (identifiersText is)), IsPlain c := by
    intro mark is hmark his c hc
    cases hempty : is.isEmpty with
    | true =>
      rw [hempty] at hc
      cases hc
    | false =>
      rw [hempty] at hc
      rcases List.mem_cons.mp hc with rfl | hc
      · exact hmark
      · exact (identifiersText_plain his c hc).1
  have hhyphen : IsPlain '-' := by
    simp only [IsPlain]
    decide
  have hplus : IsPlain '+' := by
    simp only [IsPlain]
    decide
  intro c hc
  rw [Version.text_eq] at hc
  simp only [List.mem_append, List.mem_cons] at hc
  rcases hc with hc | rfl | hc | rfl | hc | hc | hc
  · exact hnumeral _ c hc
  · exact isPlain_point
  · exact hnumeral _ c hc
  · exact isPlain_point
  · exact hnumeral _ c hc
  · exact hmarked '-' v.pre hhyphen hpre c hc
  · exact hmarked '+' v.build hplus hbuild c hc

theorem Version.text_first (v : Version) :
    ∃ c cs, v.text = c :: cs ∧ isAsciiDigit c = true := by
  obtain ⟨c, ds, hnumeral, hc⟩ := exists_numeral_cons v.major
  refine ⟨c, ds ++ '.' :: (numeral v.minor ++ '.' :: (numeral v.patch ++
    (marked '-' v.preText? ++ marked '+' v.buildText?))), ?_, hc⟩
  rw [Version.text_eq, hnumeral, List.cons_append]

/-! ### Numbers -/

theorem readNumeral?_sound {cs rest : List Char} {n : Nat}
    (h : readNumeral? cs = some (n, rest)) : cs = numeral n ++ rest := by
  unfold readNumeral? at h
  split at h
  · cases h
  · cases h
    rfl
  · rename_i c ds hzero
    split at h
    · rename_i hc
      rw [List.span_eq_takeWhile_dropWhile, List.takeWhile_cons_of_pos hc,
        List.dropWhile_cons_of_pos hc] at h
      cases h
      have hnumeral : numeral (numeralValue (c :: ds.takeWhile isAsciiDigit)) =
          c :: ds.takeWhile isAsciiDigit :=
        numeral_numeralValue hc (fun e => hzero e) fun d hd => List.mem_takeWhile_imp hd
      rw [hnumeral, List.cons_append, List.takeWhile_append_dropWhile]
    · cases h

theorem readNumeral?_append (n : Nat) {rest : List Char}
    (hrest : ∀ c ∈ rest.head?, isAsciiDigit c = false) :
    readNumeral? (numeral n ++ rest) = some (n, rest) := by
  rcases numeral_first n with hzero | ⟨c, ds, hfirst, hc⟩
  · obtain rfl := eq_zero_of_numeral hzero
    rfl
  · have hdigits : ∀ d ∈ c :: ds, isAsciiDigit d = true := by
      intro d hd
      rw [← hfirst] at hd
      exact isAsciiDigit_of_mem_numeral hd
    have hspan : (c :: (ds ++ rest)).span isAsciiDigit = (c :: ds, rest) :=
      span_append hdigits hrest
    have hvalue : numeralValue (c :: ds) = n := by rw [← hfirst, numeralValue_numeral]
    rw [hfirst, List.cons_append, readNumeral?]
    · rw [if_pos (hdigits c (by simp)), hspan]
      simp only [hvalue]
    · intro e
      exact absurd e hc

/-! ### Versions -/

namespace Version

theorem isComplete_iff (v : Version) :
    v.IsComplete ↔ (∀ i ∈ v.pre, isPreIdentifier i = true) ∧
      ∀ i ∈ v.build, isBuildIdentifier i = true := by
  simp only [isPreIdentifier_iff, isBuildIdentifier, Bool.and_eq_true, Bool.not_eq_true',
    List.isEmpty_eq_false_iff, List.all_eq_true]
  constructor
  · rintro ⟨hpre, hbuild⟩
    exact ⟨hpre, hbuild⟩
  · rintro ⟨hpre, hbuild⟩
    exact ⟨hpre, hbuild⟩

theorem read?_sound {cs : List Char} {v : Version} (h : read? cs = some v) :
    v.IsComplete ∧ cs = v.text := by
  unfold read? at h
  split at h
  · rename_i major cs₁ hmajor
    split at h
    · rename_i minor cs₂ hminor
      split at h
      · rename_i patch cs₃ hpatch
        obtain ⟨⟨pre, build⟩, hmarks, rfl⟩ := Option.map_eq_some_iff.mp h
        obtain ⟨t₁, t₂, h₁, h₂, rfl⟩ := readMarks?_sound hmarks
        obtain ⟨hpre, rfl⟩ := (writesMarked_iff _ _ _ _).mp h₁
        obtain ⟨hbuild, rfl⟩ := (writesMarked_iff _ _ _ _).mp h₂
        refine ⟨(isComplete_iff _).mpr ⟨hpre, hbuild⟩, ?_⟩
        rw [readNumeral?_sound hmajor, readNumeral?_sound hminor, readNumeral?_sound hpatch,
          text_eq]
        rfl
      · cases h
    · cases h
  · cases h

theorem read?_text {v : Version} (h : v.IsComplete) : read? v.text = some v := by
  obtain ⟨hpre, hbuild⟩ := (isComplete_iff v).mp h
  have hpoint : ∀ rest, ∀ c ∈ ('.' :: rest).head?, isAsciiDigit c = false :=
    fun rest => first_cons (by decide) rest
  have hend : ∀ c ∈ (marked '-' v.preText? ++ marked '+' v.buildText?).head?,
      isAsciiDigit c = false := by
    intro c hc
    rcases v.first_marks c hc with rfl | rfl <;> decide
  have hmarks : readMarks? isPreIdentifier isBuildIdentifier
      (marked '-' v.preText? ++ marked '+' v.buildText?) = some (v.pre, v.build) :=
    readMarks?_complete (fun _ => isWordChar_of_pre) ((writesMarked_iff _ _ _ _).mpr ⟨hpre, rfl⟩)
      ((writesMarked_iff _ _ _ _).mpr ⟨hbuild, rfl⟩)
  rw [text_eq, read?, readNumeral?_append _ (hpoint _)]
  simp only [readNumeral?_append _ (hpoint _), readNumeral?_append _ hend, hmarks, Option.map_some]

/-- A text is read as a version exactly if it is the text of that version, which is complete. -/
theorem read?_eq_some_iff (cs : List Char) (v : Version) :
    read? cs = some v ↔ v.IsComplete ∧ cs = v.text := by
  constructor
  · exact read?_sound
  · rintro ⟨hcomplete, rfl⟩
    exact read?_text hcomplete

end Version

end MergeGate
