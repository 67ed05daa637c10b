import Mathlib.Data.List.Induction
import Mathlib.Data.Nat.Digits.Defs
import MergeGate.Text.Digit

/-
  MergeGate/Proofs/Text/Numeral.lean
  ==================================
  **Numerals and their values.**  The numeral of a number is a row of ASCII digits that is not
  empty, has this number as its value (`numeralValue_numeral`), and begins with a zero only if it
  is the numeral of zero (`numeral_first`).  A row of ASCII digits without a zero at its front is
  the numeral of its value (`numeral_numeralValue`).  The value of a row has at most as many digits
  as the row (`numeralValue_lt_pow`).
-/

namespace MergeGate.Text

theorem digitValue_lt_ten (c : Char) : digitValue c < 10 := by
  unfold digitValue
  cases h : digitValue? c with
  | none => simp
  | some d =>
    unfold digitValue? at h
    dsimp only at h
    split at h
    · split at h
      · rename_i hdigit
        simp only [isAsciiDigit, Bool.and_eq_true, decide_eq_true_eq] at hdigit
        cases h
        simp only [Option.getD_some]
        omega
      · cases h
    · obtain ⟨z, hz, rfl⟩ := Option.map_eq_some_iff.mp h
      have hrow := List.find?_some hz
      simp only [Bool.and_eq_true, decide_eq_true_eq] at hrow
      simp only [Option.getD_some]
      omega

/-- A number has no more digits than the row that it is read from. -/
theorem numeralValue_lt_pow (cs : List Char) : numeralValue cs < Nat.pow 10 cs.length := by
  induction cs using List.reverseRecOn with
  | nil => decide
  | append_singleton cs c ih =>
    have hc := digitValue_lt_ten c
    have hpow : Nat.pow 10 (cs.length + 1) = Nat.pow 10 cs.length * 10 := rfl
    rw [numeralValue, List.foldl_append, List.length_append, List.length_singleton, hpow]
    simp only [List.foldl_cons, List.foldl_nil]
    rw [numeralValue] at ih
    omega

theorem numeralValue_lt_pow_of_le {cs : List Char} {k : Nat} (h : cs.length ≤ k) :
    numeralValue cs < Nat.pow 10 k :=
  Nat.lt_of_lt_of_le (numeralValue_lt_pow cs) (Nat.pow_le_pow_right (by decide) h)

theorem isAsciiDigit_eq_isDigit (c : Char) : isAsciiDigit c = c.isDigit := by
  simp [isAsciiDigit, Char.isDigit, UInt32.le_iff_toNat_le]

theorem digitValue_of_isAsciiDigit {c : Char} (h : isAsciiDigit c = true) :
    digitValue c = c.toNat - 48 := by
  have hrow : 48 ≤ c.toNat ∧ c.toNat ≤ 57 := by simpa [isAsciiDigit] using h
  have hascii : c.toNat < 128 := by omega
  simp [digitValue, digitValue?, h, hascii]

theorem isAsciiDigit_of_mem_numeral {n : Nat} {c : Char} (h : c ∈ numeral n) :
    isAsciiDigit c = true := by
  rw [isAsciiDigit_eq_isDigit]
  exact Nat.isDigit_of_mem_toDigits (by decide) (by decide) h

theorem numeral_ne_nil (n : Nat) : numeral n ≠ [] := Nat.toDigits_ne_nil

theorem exists_numeral_cons (n : Nat) : ∃ c ds, numeral n = c :: ds ∧ isAsciiDigit c = true := by
  obtain ⟨c, ds, hfirst⟩ := List.exists_cons_of_ne_nil (numeral_ne_nil n)
  have hmem : c ∈ numeral n := by simp [hfirst]
  exact ⟨c, ds, hfirst, isAsciiDigit_of_mem_numeral hmem⟩

theorem numeralValue_numeral (n : Nat) : numeralValue (numeral n) = n := by
  have hfold : ∀ (cs : List Char) (start : Nat), (∀ c ∈ cs, isAsciiDigit c = true) →
      cs.foldl (fun n c => n * 10 + digitValue c) start = Nat.ofDigitChars 10 cs start := by
    intro cs
    induction cs with
    | nil =>
      intro start _
      rfl
    | cons c cs ih =>
      intro start hcs
      have hc := digitValue_of_isAsciiDigit (hcs c (by simp))
      rw [List.foldl_cons, Nat.ofDigitChars_cons, hc, Nat.mul_comm start 10]
      exact ih _ fun d hd => hcs d (by simp [hd])
  calc numeralValue (numeral n)
      = Nat.ofDigitChars 10 (numeral n) 0 := hfold _ 0 fun _ => isAsciiDigit_of_mem_numeral
    _ = n := Nat.ofDigitChars_ten_toDigits

theorem eq_zero_of_numeral {n : Nat} (h : numeral n = ['0']) : n = 0 := by
  have hvalue := numeralValue_numeral n
  rw [h] at hvalue
  exact hvalue.symm.trans (by decide)

/-- Only zero is written with a zero at the front. -/
theorem numeral_first (n : Nat) : numeral n = ['0'] ∨ ∃ c ds, numeral n = c :: ds ∧ c ≠ '0' := by
  induction n using Nat.strongRecOn with
  | _ n ih =>
    by_cases hsmall : n < 10
    · rw [numeral, Nat.toDigits_of_lt_base hsmall]
      by_cases hzero : n = 0
      · left
        rw [hzero]
        rfl
      · right
        have hdigits : ∀ d < 10, d ≠ 0 → d.digitChar ≠ '0' := by decide
        exact ⟨n.digitChar, [], rfl, hdigits n hsmall hzero⟩
    · have hlast : numeral n = numeral (n / 10) ++ [(n % 10).digitChar] :=
        Nat.toDigits_of_base_le (by decide) (by omega)
      have hpos : numeral (n / 10) ≠ ['0'] := by
        intro hzero
        have hnone := eq_zero_of_numeral hzero
        omega
      obtain ⟨c, ds, hfirst, hc⟩ := (ih (n / 10) (by omega)).resolve_left hpos
      right
      exact ⟨c, ds ++ [(n % 10).digitChar], by rw [hlast, hfirst, List.cons_append], hc⟩

theorem numeral_length_le_iff {n k : Nat} (hk : 0 < k) :
    (numeral n).length ≤ k ↔ n < Nat.pow 10 k := by
  constructor
  · intro hlength
    rw [← numeralValue_numeral n]
    exact numeralValue_lt_pow_of_le hlength
  · intro hn
    exact Nat.toDigits_length 10 n k hk hn

theorem numeral_digitValue {c : Char} (h : isAsciiDigit c = true) :
    numeral (digitValue c) = [c] := by
  have hrow : 48 ≤ c.toNat ∧ c.toNat ≤ 57 := by simpa [isAsciiDigit] using h
  have hdigit : (c.toNat - 48).digitChar = c := by
    rw [← Char.toNat_inj, Nat.toNat_digitChar_of_lt_ten (by omega)]
    omega
  rw [digitValue_of_isAsciiDigit h, numeral, Nat.toDigits_of_lt_base (by omega), hdigit]

/-- A row of ASCII digits without a zero at its front is the numeral of its value. -/
theorem numeral_numeralValue {c : Char} {ds : List Char} (hc : isAsciiDigit c = true)
    (hzero : c ≠ '0') (hds : ∀ d ∈ ds, isAsciiDigit d = true) :
    numeral (numeralValue (c :: ds)) = c :: ds := by
  induction ds using List.reverseRecOn with
  | nil =>
    have hone : numeralValue [c] = digitValue c := by simp [numeralValue]
    rw [hone, numeral_digitValue hc]
  | append_singleton ds d ih =>
    have hd : isAsciiDigit d = true := hds d (by simp)
    have hfront := ih fun e he => hds e (by simp [he])
    have hpos : 0 < numeralValue (c :: ds) := by
      apply Nat.pos_of_ne_zero
      intro hnone
      rw [hnone] at hfront
      exact hzero (List.cons.inj hfront).1.symm
    have hvalue : numeralValue (c :: (ds ++ [d])) =
        10 * numeralValue (c :: ds) + digitValue d := by
      rw [← List.cons_append, numeralValue, List.foldl_append, ← numeralValue, List.foldl_cons,
        List.foldl_nil, Nat.mul_comm]
    calc numeral (numeralValue (c :: (ds ++ [d])))
        = numeral (numeralValue (c :: ds)) ++ numeral (digitValue d) := by
          rw [hvalue]
          exact (Nat.toDigits_append_toDigits (by decide) hpos (digitValue_lt_ten d)).symm
      _ = c :: (ds ++ [d]) := by rw [hfront, numeral_digitValue hd, List.cons_append]

end MergeGate.Text
