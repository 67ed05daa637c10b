import MergeGate.Proofs.Range.Sizes
import MergeGate.Text.Integer

/-
  MergeGate/Proofs/Range/Conversions.lean
  =======================================
  **Rows of digits become numbers.**  A row of more than `digitLimit` digits is not converted into a number:
  the conversion fails (`convert`).  The readers of ranges and versions are run with it here
  (`Range.parseChecked`, `Version.coerceChecked?`), and versions are compared with it where identifiers
  become numbers (`Version.compareChecked`, `satisfiesChecked`).

  The readers convert short rows only.  So whichever conversion is right on these, and whatever effects it
  has elsewhere, they give what they give when every row is converted (`Range.parseBy_eq`,
  `Version.ofRowsBy?_eq`).  None of the conversions fails (`satisfies_within_limits`).  Where a complete
  version is read, a number may be too long; the text is then taken for one that holds no complete version.
-/

namespace MergeGate

open MergeGate.Text MergeGate.Version

/-! ### Conversions -/

/-- The number that a row of digits stands for, if it is not too long. -/
def convert (ds : List Char) : Except NumeralFault Nat := (readInteger 10 ds).map Int.toNat

/-- A row of digits, of which there is at least one. -/
structure IsRow (ds : List Char) : Prop where
  ne_nil : ds ≠ []
  digits : ∀ d ∈ ds, isDigit d = true

theorem digitIn?_ten {c : Char} (h : isDigit c = true) : digitIn? 10 c = some (digitValue c) := by
  have hlt := digitValue_lt_ten c
  rw [isDigit, Option.isSome_iff_exists] at h
  obtain ⟨d, hd⟩ := h
  have hvalue : digitValue c = d := by rw [digitValue, hd]; rfl
  rw [hvalue] at hlt
  simp [digitIn?, hd, hvalue, hlt]

theorem ne_of_isDigit {c d : Char} (h : isDigit c = true) (hd : isDigit d = false) : c ≠ d := by
  rintro rfl
  exact absurd (h.symm.trans hd) (by decide)

theorem readDigits_ten {ds : List Char} (h : ∀ d ∈ ds, isDigit d = true) (n : Nat) (afterDigit : Bool)
    (hfirst : ds = [] → afterDigit = true) :
    readDigits 10 n afterDigit ds = some (ds.foldl (fun n c => n * 10 + digitValue c) n) := by
  induction ds generalizing n afterDigit with
  | nil => rw [hfirst rfl]; rfl
  | cons c ds ih =>
    have hc := h c List.mem_cons_self
    have hnot : ¬ c = '_' := ne_of_isDigit hc (by decide)
    rw [readDigits, if_neg hnot, digitIn?_ten hc]
    exact ih (fun d hd => h d (List.mem_cons_of_mem c hd)) _ true fun _ => rfl

theorem dropBaseMark_ten (cs : List Char) : dropBaseMark 10 cs = cs := by
  unfold dropBaseMark
  split
  · rfl
  · rfl

theorem leadingDigits_ten {ds : List Char} (h : ∀ d ∈ ds, isDigit d = true) : leadingDigits 10 ds = ds.length := by
  have htake : (ds.takeWhile fun c => c == '_' || (digitIn? 10 c).isSome) = ds := by
    rw [List.takeWhile_eq_self_iff]
    intro d hd
    rw [digitIn?_ten (h d hd)]
    exact Bool.or_true _
  have hfilter : ds.filter (· != '_') = ds := by
    rw [List.filter_eq_self]
    intro d hd
    exact bne_iff_ne.2 (ne_of_isDigit (h d hd) (by decide))
  rw [leadingDigits, htake, hfilter]

namespace IsRow

variable {ds : List Char}

theorem readNumeral (h : IsRow ds) :
    readNumeral 10 ds =
      if digitLimit < ds.length then .error (.tooLong ds.length) else .ok (numeralValue ds) := by
  have hread := readDigits_ten h.digits 0 false fun hnil => absurd hnil h.ne_nil
  have hlimited : isLimited 10 = true := rfl
  rw [Text.readNumeral, dropBaseMark_ten, leadingDigits_ten h.digits, hread, hlimited]
  by_cases hlength : digitLimit < ds.length
  · simp [hlength]
  · simp [hlength, numeralValue]

theorem dropWhile_blank (h : IsRow ds) : ds.dropWhile isNumeralBlank = ds := by
  obtain ⟨c, cs, rfl⟩ := List.exists_cons_of_ne_nil h.ne_nil
  have hblank : isBlank c = false := (isPlain_of_isDigit (h.digits c List.mem_cons_self)).1
  have hnot : isNumeralBlank c = false := by rw [isNumeralBlank, hblank]; rfl
  rw [List.dropWhile_cons_of_neg (by rw [hnot]; decide)]

theorem reverse (h : IsRow ds) : IsRow ds.reverse where
  ne_nil := fun hnil => h.ne_nil (List.reverse_eq_nil_iff.1 hnil)
  digits := fun d hd => h.digits d (List.mem_reverse.1 hd)

theorem convert_eq (h : IsRow ds) :
    convert ds = if digitLimit < ds.length then .error (.tooLong ds.length) else .ok (numeralValue ds) := by
  have hbare : ((ds.dropWhile isNumeralBlank).reverse.dropWhile isNumeralBlank).reverse = ds := by
    rw [h.dropWhile_blank, h.reverse.dropWhile_blank, List.reverse_reverse]
  have hplain : readInteger 10 ds = (Text.readNumeral 10 ds).map fun n => (n : Int) := by
    obtain ⟨c, cs, rfl⟩ := List.exists_cons_of_ne_nil h.ne_nil
    have hc := h.digits c List.mem_cons_self
    rw [readInteger, hbare]
    split
    · rename_i heq
      exact absurd (List.cons.inj heq).1 (ne_of_isDigit hc (by decide))
    · rename_i heq
      exact absurd (List.cons.inj heq).1 (ne_of_isDigit hc (by decide))
    · rfl
  rw [convert, hplain, h.readNumeral]
  split
  · rfl
  · rfl

/-- A row of at most `maxDigits` digits is converted. -/
theorem convert_short (h : IsRow ds) (hlength : ds.length ≤ maxDigits) : convert ds = .ok (numeralValue ds) := by
  have hlimit : maxDigits ≤ digitLimit := by decide
  rw [h.convert_eq, if_neg (Nat.not_lt.2 (hlength.trans hlimit))]

end IsRow

/-- Rows of at most `maxDigits` digits are converted into what they stand for. -/
def ConvertsShort {m : Type → Type} [Monad m] (number : List Char → m Nat) : Prop :=
  ∀ ds, IsRow ds → ds.length ≤ maxDigits → number ds = pure (numeralValue ds)

theorem convertsShort_convert : ConvertsShort convert := fun _ hrow hlength => hrow.convert_short hlength

/-! ### Reading ranges -/

theorem isDigit_of_mem_span {cs : List Char} {d : Char} (hd : d ∈ (cs.span isDigit).1) : isDigit d = true := by
  rw [List.span_eq_takeWhile_dropWhile] at hd
  exact List.mem_takeWhile_imp hd

theorem isRow_of_span {cs : List Char} (hne : (cs.span isDigit).1 ≠ []) : IsRow (cs.span isDigit).1 :=
  ⟨hne, fun _ hd => isDigit_of_mem_span hd⟩

section Readers

variable {m : Type → Type} [Monad m] [LawfulMonad m] {number : List Char → m Nat}

theorem readNumberBy?_eq (h : ConvertsShort number) (cs : List Char) :
    readNumberBy? number cs = pure (readNumber? cs) := by
  cases cs with
  | nil => rfl
  | cons c cs =>
    rw [readNumberBy?, readNumber?_cons]
    by_cases hwild : (c = 'x' || c = 'X' || c = '*') = true
    · rw [if_pos hwild, if_pos hwild]
    rw [if_neg hwild, if_neg hwild]
    by_cases hzero : c = '0'
    · have hdigit : isDigit '0' = true := isDigit_of_isAsciiDigit (by decide)
      have hrow : IsRow ['0'] := ⟨List.cons_ne_nil _ _, List.forall_mem_singleton.2 hdigit⟩
      rw [if_pos hzero, if_pos hzero, h ['0'] hrow (by decide), pure_bind]
      rfl
    rw [if_neg hzero, if_neg hzero]
    by_cases hdigit : isAsciiDigit c = true
    · rw [if_pos hdigit, if_pos hdigit]
      dsimp only
      by_cases hlength : (cs.span isDigit).1.length < maxDigits
      · have hrow : IsRow (c :: (cs.span isDigit).1) := by
          refine ⟨List.cons_ne_nil _ _, List.forall_mem_cons.2 ⟨isDigit_of_isAsciiDigit hdigit, ?_⟩⟩
          exact fun _ hd => isDigit_of_mem_span hd
        rw [if_pos hlength, if_pos hlength, h _ hrow hlength, pure_bind]
      · rw [if_neg hlength, if_neg hlength]
    · rw [if_neg hdigit, if_neg hdigit]

theorem Partial.readBy?_eq (h : ConvertsShort number) (cs : List Char) :
    Partial.readBy? number cs = pure (Partial.read? cs) := by
  rw [Partial.readBy?, Partial.read?_eq]
  simp only [readNumberBy?_eq h, pure_bind]
  -- one case for each way in which a number can end: the text ends, a point follows, or anything else does
  split
  · rfl
  · split
    · rfl
    · split
      · rfl
      · rfl
    · rfl
  · rfl

theorem readSimpleBy?_eq (h : ConvertsShort number) (word : List Char) :
    readSimpleBy? number word = pure (readSimple? word) := by
  rw [readSimpleBy?, readSimple?_eq, Partial.readBy?_eq h, pure_bind]

theorem readEndBy?_eq (h : ConvertsShort number) (cs : List Char) : readEndBy? number cs = pure (readEnd? cs) :=
  Partial.readBy?_eq h (dropEquals cs)

theorem readSimplesBy_eq (h : ConvertsShort number) (ws : List (List Char)) :
    (readSimplesBy number ws).run = pure (readSimples ws) := by
  induction ws with
  | nil => rfl
  | cons w ws ih =>
    rw [readSimplesBy, readSimples_cons, readSimpleBy?_eq h]
    cases readSimple? w with
    | none => simp
    | some s =>
      simp only [liftM_pure, bind_pure_comp, pure_bind, ExceptT.run_map, ih, map_pure]
      cases readSimples ws <;> rfl

theorem Clause.readBy_eq (h : ConvertsShort number) (cs : List Char) :
    (Clause.readBy number cs).run = pure (Clause.read cs) := by
  rw [Clause.readBy, Clause.read_eq]
  split
  · rename_i low high _
    rw [readEndBy?_eq h, readEndBy?_eq h]
    cases readEnd? low with
    | none => simp
    | some l => cases readEnd? high <;> simp
  · simp only [bind_pure_comp, ExceptT.run_map, readSimplesBy_eq h, map_pure]
    cases readSimples (words (closeGaps false (trim cs))) <;> rfl

theorem readClausesBy_eq (h : ConvertsShort number) (ps : List (List Char)) :
    (readClausesBy number ps).run = pure (readClauses ps) := by
  induction ps with
  | nil => rfl
  | cons p ps ih =>
    rw [readClausesBy, readClauses_cons, ExceptT.run_bind, Clause.readBy_eq h, pure_bind]
    cases Clause.read p with
    | error e => rfl
    | ok c =>
      simp only [bind_pure_comp, ExceptT.run_map, ih, map_pure]
      cases readClauses ps <;> rfl

theorem Range.parseBy_eq (h : ConvertsShort number) (s : String) :
    (Range.parseBy number s).run = pure (Range.parse s) := by
  rw [Range.parseBy, Range.parse_eq, readClausesBy_eq h]
  cases readClauses (splitBars s.toList) <;> simp

end Readers

/-- `Range.parse` with conversions: it fails by a conversion or by the text. -/
def Range.parseChecked (s : String) : Except (NumeralFault ⊕ RangeError) Range :=
  match (Range.parseBy convert s).run with
  | .error fault => .error (.inl fault)
  | .ok r => r.mapError .inr

theorem Range.parseChecked_eq (s : String) : Range.parseChecked s = (Range.parse s).mapError .inr := by
  rw [Range.parseChecked, Range.parseBy_eq convertsShort_convert]
  rfl

/-! ### Making the best of a text -/

/-- Whether the numbers of a complete version can be converted. -/
def Version.isConvertible (v : Version) : Bool := v.numbers.all fun n => (numeral n).length ≤ digitLimit

/-- `coerce?` with conversions.  A complete version with a number that is too long is none. -/
def Version.coerceChecked? (cs : List Char) : Except NumeralFault (Option Version) :=
  coerceBy? convert (fun cs => (read? cs).filter isConvertible) cs

theorem isRow_of_findRow? {inRow : Bool} {cs row rest : List Char} (h : findRow? inRow cs = some (row, rest)) :
    IsRow row := by
  induction cs generalizing inRow with
  | nil => cases h
  | cons c cs ih =>
    unfold findRow? at h
    split at h
    · exact ih h
    · rename_i hdigit
      split at h
      · exact ih h
      · dsimp only at h
        split at h
        · have hrow : ((c :: cs).span isDigit).1 = row := congrArg Prod.fst (Option.some.inj h)
          rw [← hrow]
          apply isRow_of_span
          rw [Bool.not_eq_true', Bool.not_eq_false] at hdigit
          rw [List.span_eq_takeWhile_dropWhile, List.takeWhile_cons_of_pos hdigit]
          exact List.cons_ne_nil _ _
        · exact ih h

theorem isRow_of_nextRow? {cs row rest : List Char} (h : nextRow? cs = some (row, rest)) : IsRow row := by
  unfold nextRow? at h
  split at h
  · rename_i cs
    dsimp only at h
    split at h
    · rename_i hlength
      have hrow : (cs.span isDigit).1 = row := congrArg Prod.fst (Option.some.inj h)
      rw [← hrow]
      apply isRow_of_span
      intro hnil
      rw [hnil] at hlength
      exact absurd hlength (by decide)
    · cases h
  · cases h

section Readers

variable {m : Type → Type} [Monad m] [LawfulMonad m] {number : List Char → m Nat}

theorem Version.ofRowsBy?_eq (h : ConvertsShort number) (cs : List Char) :
    ofRowsBy? number cs = pure (ofRows? cs) := by
  rw [ofRowsBy?, ofRows?_eq]
  cases hmajor : findRow? false cs with
  | none => rfl
  | some p =>
    obtain ⟨major, rest⟩ := p
    have hfirst := h major (isRow_of_findRow? hmajor) (findRow?_length_le hmajor)
    dsimp only
    cases hminor : nextRow? rest with
    | none => simp only [hfirst, pure_bind]
    | some q =>
      obtain ⟨minor, rest'⟩ := q
      have hsecond := h minor (isRow_of_nextRow? hminor) (nextRow?_length_le hminor)
      dsimp only
      cases hpatch : nextRow? rest' with
      | none => simp only [hfirst, hsecond, pure_bind]
      | some r =>
        have hthird := h r.1 (isRow_of_nextRow? hpatch) (nextRow?_length_le hpatch)
        simp only [hfirst, hsecond, hthird, pure_bind]

end Readers

/-- A version of short numbers can be converted. -/
theorem Version.isConvertible_of_lt {v : Version} (h : ∀ n ∈ v.numbers, n < numberCap) : v.isConvertible = true := by
  have hlimit : maxDigits ≤ digitLimit := by decide
  rw [isConvertible, List.all_eq_true]
  intro n hn
  have hlength : (numeral n).length ≤ maxDigits := (numeral_length_le_iff (by decide)).mpr (h n hn)
  exact decide_eq_true (hlength.trans hlimit)

theorem Version.coerceChecked?_eq (cs : List Char) : coerceChecked? cs = .ok (coerce? cs) := by
  rw [coerceChecked?, coerceBy?, coerce?_eq, ofRowsBy?_eq convertsShort_convert]
  cases read? (bare cs) with
  | none => rfl
  | some v =>
    cases hover : v.isOversized with
    | true =>
      -- the number may be too long for a conversion or not, its version is not taken either way
      cases hconvert : v.isConvertible with
      | true =>
        rw [Option.filter_some_pos hconvert]
        dsimp only
        rw [hover]
        rfl
      | false =>
        rw [Option.filter_some_neg hconvert]
        dsimp only
        rw [hover]
        rfl
    | false =>
      have hconvert := isConvertible_of_lt ((isOversized_eq_false_iff _).mp hover).1
      rw [Option.filter_some_pos hconvert]
      dsimp only
      rw [hover]
      rfl

/-! ### Comparing -/

/-- An identifier as it is compared. -/
inductive Identifier.Part where
  | number (n : Nat)
  | text (i : List Char)

namespace Identifier

/-- An identifier of digits becomes a number. -/
def part (i : Identifier) : Except NumeralFault Part :=
  if i.isNumber then (convert i).map .number else .ok (.text i)

def Part.compare : Part → Part → Ordering
  | .number m, .number n => Ord.compare m n
  | .number _, .text _ => .lt
  | .text _, .number _ => .gt
  | .text i, .text j => compareText i j

def Part.compareRows : List Part → List Part → Ordering
  | [], [] => .eq
  | [], _ :: _ => .lt
  | _ :: _, [] => .gt
  | p :: ps, q :: qs => (p.compare q).then (compareRows ps qs)

def Part.comparePre : List Part → List Part → Ordering
  | [], [] => .eq
  | [], _ :: _ => .gt
  | _ :: _, [] => .lt
  | ps, qs => compareRows ps qs

/-- The part of an identifier whose digits can be converted. -/
def plainPart (i : Identifier) : Part := if i.isNumber then .number (numeralValue i) else .text i

theorem part_eq {i : Identifier} (h : i.isNumber = true → i.length ≤ maxDigits) : part i = .ok (plainPart i) := by
  rw [part, plainPart]
  cases hnumber : i.isNumber with
  | true =>
    have hrow : IsRow i := by
      rw [isNumber, Bool.and_eq_true, Bool.not_eq_true', List.isEmpty_eq_false_iff, List.all_eq_true] at hnumber
      exact ⟨hnumber.1, hnumber.2⟩
    rw [if_pos rfl, if_pos rfl, hrow.convert_short (h hnumber)]
    rfl
  | false => rfl

theorem compare_plainPart (i j : Identifier) : (plainPart i).compare (plainPart j) = compare i j := by
  unfold plainPart compare
  cases i.isNumber <;> cases j.isNumber <;> rfl

theorem compareRows_plainPart (is js : List Identifier) :
    Part.compareRows (is.map plainPart) (js.map plainPart) = compareRows is js := by
  induction is generalizing js with
  | nil => cases js <;> rfl
  | cons i is ih =>
    cases js with
    | nil => rfl
    | cons j js => rw [List.map_cons, List.map_cons, Part.compareRows, compareRows, compare_plainPart, ih]

theorem comparePre_plainPart (is js : List Identifier) :
    Part.comparePre (is.map plainPart) (js.map plainPart) = Version.comparePre is js := by
  cases is with
  | nil => cases js <;> rfl
  | cons i is =>
    cases js with
    | nil => rfl
    | cons j js => exact compareRows_plainPart (i :: is) (j :: js)

theorem mapM_part {is : List Identifier} (h : AreShort is) : is.mapM part = .ok (is.map plainPart) := by
  induction is with
  | nil => rfl
  | cons i is ih =>
    have hhead := part_eq (h i List.mem_cons_self)
    have htail := ih fun j hj => h j (List.mem_cons_of_mem i hj)
    rw [List.mapM_cons, hhead, htail]
    rfl

end Identifier

/-- `Version.compare` with conversions, which are made only where the numbers are the same. -/
def Version.compareChecked (u v : Version) : Except NumeralFault Ordering :=
  let numbers :=
    (Ord.compare u.major v.major).then <| (Ord.compare u.minor v.minor).then <| Ord.compare u.patch v.patch
  if numbers = .eq then do return Identifier.Part.comparePre (← u.pre.mapM Identifier.part) (← v.pre.mapM Identifier.part)
  else .ok numbers

theorem Version.compareChecked_eq {u v : Version} (hu : u.IsShort) (hv : v.IsShort) :
    compareChecked u v = .ok (u.compare v) := by
  unfold compareChecked compare
  rw [Identifier.mapM_part hu.pre, Identifier.mapM_part hv.pre, ← Identifier.comparePre_plainPart]
  dsimp only
  cases Ord.compare u.major v.major <;> cases Ord.compare u.minor v.minor <;>
    cases Ord.compare u.patch v.patch <;> rfl

def Bound.acceptsChecked (b : Bound) (v : Version) : Except NumeralFault Bool :=
  (v.compareChecked b.version).map b.relation.holds

/-- `Range.accepts` with conversions: bounds after one that fails are not looked at, nor alternatives after
    one that holds. -/
def Range.acceptsChecked (r : Range) (v : Version) : Except NumeralFault Bool :=
  r.alternatives.anyM fun a => a.allM fun b => b.acceptsChecked v

theorem allM_eq_ok {α : Type} {xs : List α} {p : α → Except NumeralFault Bool} {q : α → Bool}
    (h : ∀ x ∈ xs, p x = .ok (q x)) : xs.allM p = .ok (xs.all q) := by
  induction xs with
  | nil => rfl
  | cons x xs ih =>
    have htail := ih fun y hy => h y (List.mem_cons_of_mem x hy)
    rw [List.allM, h x List.mem_cons_self, List.all_cons]
    cases q x with
    | true => exact htail
    | false => rfl

theorem anyM_eq_ok {α : Type} {xs : List α} {p : α → Except NumeralFault Bool} {q : α → Bool}
    (h : ∀ x ∈ xs, p x = .ok (q x)) : xs.anyM p = .ok (xs.any q) := by
  induction xs with
  | nil => rfl
  | cons x xs ih =>
    have htail := ih fun y hy => h y (List.mem_cons_of_mem x hy)
    rw [List.anyM, h x List.mem_cons_self, List.any_cons]
    cases q x with
    | true => rfl
    | false => exact htail

theorem Range.acceptsChecked_eq {r : Range} {v : Version} (hr : ∀ a ∈ r.alternatives, Alternative.IsShort a)
    (hv : v.IsShort) : r.acceptsChecked v = .ok (r.accepts v) := by
  apply anyM_eq_ok
  intro a ha
  apply allM_eq_ok
  intro b hb
  rw [Bound.acceptsChecked, Version.compareChecked_eq hv (hr a ha b hb)]
  rfl

/-! ### The whole comparison -/

def Range.ofJsonChecked : Json → Except (NumeralFault ⊕ RangeError) Range
  | .text s => Range.parseChecked s
  | v => .error (.inr ⟨v.plainText, .notText⟩)

/-- `satisfies` with conversions: it fails by a conversion or by the range. -/
def satisfiesChecked (version : String) (range : Json) : Except (NumeralFault ⊕ RangeError) Bool := do
  match ← (Version.coerceChecked? version.toList).mapError .inl with
  | none => return false
  | some v =>
    let r ← Range.ofJsonChecked range
    (r.acceptsChecked v).mapError .inl

theorem Range.ofJsonChecked_eq (range : Json) : Range.ofJsonChecked range = (Range.ofJson range).mapError .inr := by
  cases range
  case text s => exact Range.parseChecked_eq s
  all_goals rfl

theorem Range.ofJson_isShort {range : Json} {r : Range} (h : Range.ofJson range = .ok r) :
    ∀ a ∈ r.alternatives, Alternative.IsShort a := by
  unfold Range.ofJson at h
  split at h
  · exact Range.parse_isShort h
  · cases h

theorem satisfiesChecked_eq (version : String) (range : Json) :
    satisfiesChecked version range = (satisfies version range).mapError .inr := by
  unfold satisfiesChecked satisfies
  rw [Version.coerceChecked?_eq, ← Version.ofString?, Range.ofJsonChecked_eq]
  cases hversion : Version.ofString? version with
  | none => rfl
  | some v =>
    cases hrange : Range.ofJson range with
    | error e => rfl
    | ok r =>
      have haccepts := Range.acceptsChecked_eq (Range.ofJson_isShort hrange) (Version.ofString?_isShort hversion)
      change (r.acceptsChecked v).mapError Sum.inl = _
      rw [haccepts]
      rfl

/-- All numbers of versions stay within bounds, so none is too long to be converted.

    1. The bounds of a range that compiles have numbers of at most `numberCap`, and their pre-release
       identifiers that are numbers have at most 16 digits.
    2. The version that a text stands for has numbers below `numberCap`, and short identifiers too.
    3. No conversion fails while a range is read, while the best is made of a text, or while a text is
       compared with a range: only the range itself may be refused. -/
theorem satisfies_within_limits :
    numberCap = 10 ^ 16 ∧ maxDigits = 16 ∧
    (∀ s r, Range.parse s = .ok r → ∀ a ∈ r.alternatives, ∀ b ∈ a, b.version.IsShort) ∧
    (∀ s v, Version.ofString? s = some v → (∀ n ∈ v.numbers, n < numberCap) ∧ AreShort v.pre) ∧
    (∀ s, Range.parseChecked s = (Range.parse s).mapError .inr) ∧
    (∀ cs, Version.coerceChecked? cs = .ok (Version.coerce? cs)) ∧
    ∀ version range, satisfiesChecked version range = (satisfies version range).mapError .inr := by
  refine ⟨by rfl, rfl, ?_, ?_, Range.parseChecked_eq, Version.coerceChecked?_eq, satisfiesChecked_eq⟩
  · intro s r h
    exact Range.parse_isShort h
  · intro s v h
    exact coerce?_numbers_lt h

end MergeGate
