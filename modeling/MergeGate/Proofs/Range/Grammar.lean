import MergeGate.Proofs.Text.Words
import MergeGate.Range.Reader

/-
  MergeGate/Proofs/Range/Grammar.lean
  ===================================
  **The grammar of ranges.**  How ranges, clauses, signs and partial versions are written, as
  relations between texts and what they stand for.  Nothing here speaks of how a text is read.

    * a number is a wildcard, a zero, or up to 16 digits of which the first is an ASCII digit other
      than zero (`WritesNumber`);
    * a partial version is up to three of them with points between, perhaps after a `v`; marks may
      follow the third (`WritesPartial`);
    * a simple is a sign, a gap and a partial version; gaps may also stand inside a sign
      (`WritesSign`, `WritesSimple`);
    * a clause is empty, a row of simples, or two ends with a hyphen between gaps (`WritesClause`);
    * a range is clauses with double bars between them (`WritesRange`).

  The module also collects which characters a partial version is made of (`IsPlain`): no blanks,
  no sign characters and no separators, neither those of clauses nor the one before a range.
-/

namespace MergeGate

open MergeGate.Text MergeGate.Version

/-! ### Partial versions -/

/-- A text writes a number, or a wildcard. -/
inductive WritesNumber : List Char → Option Nat → Prop where
  | wildcard {c : Char} (hc : c = 'x' ∨ c = 'X' ∨ c = '*') : WritesNumber [c] none
  | zero : WritesNumber ['0'] (some 0)
  | digits {c : Char} {ds : List Char} (hc : isAsciiDigit c = true) (hzero : c ≠ '0')
      (hds : ∀ d ∈ ds, isDigit d = true) (hlength : ds.length < maxDigits) :
      WritesNumber (c :: ds) (some (numeralValue (c :: ds)))

/-- A text writes identifiers after a mark, or nothing if there are none. -/
def WritesMarked (mark : Char) (isAllowed : Identifier → Bool) (t : List Char)
    (is : List Identifier) : Prop :=
  (is = [] ∧ t = []) ∨ (is ≠ [] ∧ (∀ i ∈ is, isAllowed i = true) ∧ t = mark :: identifiersText is)

/-- A text writes pre-release and build identifiers. -/
def WritesMarks (t : List Char) (pre build : List Identifier) : Prop :=
  ∃ t₁ t₂, WritesMarked '-' isRangePreIdentifier t₁ pre ∧
    WritesMarked '+' isBuildIdentifier t₂ build ∧ t = t₁ ++ t₂

/-- A text writes one, two or three numbers with points between them, and marks after the third. -/
inductive WritesNumbers : List Char → Partial → Prop where
  | one {t : List Char} {a : Option Nat} (ha : WritesNumber t a) :
      WritesNumbers t (.ofNumbers [] [] a none none)
  | two {t u : List Char} {a b : Option Nat} (ha : WritesNumber t a) (hb : WritesNumber u b) :
      WritesNumbers (t ++ '.' :: u) (.ofNumbers [] [] a b none)
  | three {t u w m : List Char} {a b c : Option Nat} {pre build : List Identifier}
      (ha : WritesNumber t a) (hb : WritesNumber u b) (hc : WritesNumber w c)
      (hm : WritesMarks m pre build) :
      WritesNumbers (t ++ '.' :: (u ++ '.' :: (w ++ m))) (.ofNumbers pre build a b c)

/-- A text writes a partial version, perhaps with a `v` before it. -/
def WritesPartial (t : List Char) (p : Partial) : Prop :=
  WritesNumbers t p ∨ ∃ u, t = 'v' :: u ∧ WritesNumbers u p

/-! ### Clauses -/

/-- A text writes a sign. -/
inductive WritesSign : List Char → Sign → Prop where
  | none : WritesSign [] .exact
  | exact : WritesSign ['='] .exact
  | below : WritesSign ['<'] .below
  | above : WritesSign ['>'] .above
  | atMost {g : List Char} (hg : Gap g) : WritesSign ('<' :: (g ++ ['='])) .atMost
  | atLeast {g : List Char} (hg : Gap g) : WritesSign ('>' :: (g ++ ['='])) .atLeast
  | tilde : WritesSign ['~'] .tilde
  | tildeAbove {g : List Char} (hg : Gap g) : WritesSign ('~' :: (g ++ ['>'])) .tilde
  | caret : WritesSign ['^'] .caret

/-- A text writes a sign and a partial version; a gap may stand between them if there is a sign. -/
def WritesSimple (t : List Char) (s : Sign × Partial) : Prop :=
  ∃ o g u, t = o ++ g ++ u ∧ WritesSign o s.1 ∧ Gap g ∧ (o = [] → g = []) ∧ WritesPartial u s.2

/-- A text writes simples with gaps between them. -/
inductive WritesSimples : List Char → List (Sign × Partial) → Prop where
  | one {t : List Char} {s : Sign × Partial} (hs : WritesSimple t s) : WritesSimples t [s]
  | cons {t g u : List Char} {s : Sign × Partial} {ss : List (Sign × Partial)}
      (hs : WritesSimple t s) (hg : Gap g) (hne : g ≠ []) (hss : WritesSimples u ss) :
      WritesSimples (t ++ g ++ u) (s :: ss)

/-- A text writes an end of a hyphen range: a partial version, perhaps after an equals sign. -/
def WritesEnd (t : List Char) (p : Partial) : Prop :=
  WritesPartial t p ∨ ∃ u, t = '=' :: u ∧ WritesPartial u p

/-- A text writes a clause, perhaps with gaps around it. -/
inductive WritesClause : List Char → Clause → Prop where
  | empty {g : List Char} (hg : Gap g) : WritesClause g (.all [])
  | simples {g t h : List Char} {ss : List (Sign × Partial)} (hg : Gap g) (hh : Gap h)
      (hss : WritesSimples t ss) : WritesClause (g ++ t ++ h) (.all ss)
  | between {g t g₁ g₂ u h : List Char} {low high : Partial} (hg : Gap g) (hlow : WritesEnd t low)
      (hg₁ : Gap g₁) (hne₁ : g₁ ≠ []) (hg₂ : Gap g₂) (hne₂ : g₂ ≠ []) (hhigh : WritesEnd u high)
      (hh : Gap h) :
      WritesClause (g ++ (t ++ (g₁ ++ '-' :: (g₂ ++ (u ++ h))))) (.between low high)

/-- A text writes a range: clauses, at least one, with double bars between them. -/
def WritesRange (t : List Char) (cs : List Clause) : Prop :=
  ∃ ps, ps ≠ [] ∧ t = joinWith ['|', '|'] ps ∧ List.Forall₂ WritesClause ps cs

/-! ### The characters of a partial version -/

/-- The characters that set ranges and clauses apart: the at sign before a range, and the bar. -/
def isSeparator (c : Char) : Bool := c = '|' || c = '@'

/-- Neither a blank nor a character of signs nor a separator. -/
def IsPlain (c : Char) : Prop :=
  isBlank c = false ∧ isSignChar c = false ∧ isSeparator c = false

theorem zeroRows_apart : ∀ z ∈ zeroRows,
    128 ≤ z ∧ 0xa0 < z ∧ (z + 10 ≤ 0x1680 ∨ 0x1680 < z ∧ (z + 10 ≤ 0x2000 ∨ 0x3000 < z)) := by
  decide

theorem isDigit_cases {c : Char} (h : isDigit c = true) :
    isAsciiDigit c = true ∨ ∃ z ∈ zeroRows, z ≤ c.toNat ∧ c.toNat < z + 10 := by
  unfold isDigit digitValue? at h
  by_cases hn : c.toNat < 128
  · by_cases hc : isAsciiDigit c = true
    · exact .inl hc
    · simp [hn, hc] at h
  · simp only [hn, if_false, Option.isSome_map] at h
    obtain ⟨z, hz⟩ := Option.isSome_iff_exists.mp h
    have hfound := List.find?_some hz
    simp only [Bool.and_eq_true, decide_eq_true_eq] at hfound
    exact .inr ⟨z, List.mem_of_find?_eq_some hz, hfound⟩

theorem isPlain_of_isAsciiDigit {c : Char} (h : isAsciiDigit c = true) : IsPlain c := by
  simp only [isAsciiDigit, Bool.and_eq_true, decide_eq_true_eq] at h
  refine ⟨?_, ?_, ?_⟩
  · simp only [isBlank, Bool.or_eq_false_iff, Bool.and_eq_false_iff, decide_eq_false_iff_not,
      beq_eq_false_iff_ne]
    omega
  · simp only [isSignChar, Bool.or_eq_false_iff, decide_eq_false_iff_not]
    refine ⟨⟨⟨⟨?_, ?_⟩, ?_⟩, ?_⟩, ?_⟩ <;> rintro rfl <;> simp at h
  · simp only [isSeparator, Bool.or_eq_false_iff, decide_eq_false_iff_not]
    refine ⟨?_, ?_⟩ <;> rintro rfl <;> simp at h

theorem isPlain_of_isDigit {c : Char} (h : isDigit c = true) : IsPlain c := by
  rcases isDigit_cases h with hc | ⟨z, hz, hle, hlt⟩
  · exact isPlain_of_isAsciiDigit hc
  · obtain ⟨hz₁, hz₂, hz₃⟩ := zeroRows_apart z hz
    refine ⟨?_, ?_, ?_⟩
    · simp only [isBlank, Bool.or_eq_false_iff, Bool.and_eq_false_iff, decide_eq_false_iff_not,
        beq_eq_false_iff_ne]
      omega
    · simp only [isSignChar, Bool.or_eq_false_iff, decide_eq_false_iff_not]
      refine ⟨⟨⟨⟨?_, ?_⟩, ?_⟩, ?_⟩, ?_⟩ <;> rintro rfl <;> simp at hle <;> omega
    · simp only [isSeparator, Bool.or_eq_false_iff, decide_eq_false_iff_not]
      refine ⟨?_, ?_⟩ <;> rintro rfl <;> simp at hle <;> omega

end MergeGate
