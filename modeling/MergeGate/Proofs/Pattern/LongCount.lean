import MergeGate.Proofs.Pattern.Reading

/-
  MergeGate/Proofs/Pattern/LongCount.lean
  =======================================
  **Counts that are too long.**  A letter that is to be repeated is a pattern, whatever the count.
  If the count has more digits than a number may have, the reading nevertheless ends in a foreign
  fault (`ofText_counted`).  The reading is followed from the letter to the closing brace; no
  step before the count can fail, since there is no backslash.
-/

namespace MergeGate

namespace Pattern

open MergeGate.Text

/-! ### Taking characters -/

/-- The state after some characters were taken. -/
def Scan.skipped (s : Scan) (n : Nat) : Scan :=
  { s with rest := s.rest.drop n, position := s.position + n }

/-- A plain character is taken unless a single backslash may come next. -/
theorem take_plain {s : Scan} (hs : s.dangling = false) {c : Char} {ts : List Token}
    (hrest : s.rest = .plain c :: ts) : take s = .ok (some (.plain c), s.skipped 1) := by
  unfold take Scan.advance
  simp only [hrest, hs, Bool.and_false, Bool.false_eq_true, if_false, List.head?_cons]
  simp only [Scan.skipped, hrest, hs, Token.chars, List.length_singleton, List.drop_one,
    List.tail_cons]

theorem accept_plain {s : Scan} (hs : s.dangling = false) {c : Char} {ts : List Token}
    (hrest : s.rest = .plain c :: ts) : accept c s = .ok (true, s.skipped 1) := by
  unfold accept
  simp only [bind_apply, peek_apply, hrest, List.head?_cons, if_true, take_plain hs hrest,
    pure_apply]

theorem accept_other {s : Scan} {c d : Char} {ts : List Token} (hrest : s.rest = .plain d :: ts)
    (hne : d ≠ c) : accept c s = .ok (false, s) := by
  unfold accept
  simp only [bind_apply, peek_apply, hrest, List.head?_cons]
  rw [if_neg (by simpa using hne)]
  rfl

/-- A whole row of characters of a class is taken. -/
theorem takeSome_row {hit : Char → Bool} {ds : List Char} (hds : ∀ d ∈ ds, hit d = true) {c : Char}
    (hc : hit c = false) {ts : List Token} {n : Nat} (hn : ds.length < n) {s : Scan}
    (hs : s.dangling = false) (hrest : s.rest = ds.map .plain ++ .plain c :: ts) :
    takeSome hit n s = .ok (ds, s.skipped ds.length) := by
  induction ds generalizing n s with
  | nil =>
    obtain ⟨n, rfl⟩ := Nat.exists_eq_succ_of_ne_zero (Nat.ne_of_gt hn)
    simp only [List.map_nil, List.nil_append] at hrest
    simp only [takeSome, bind_apply, peek_apply, hrest, List.head?_cons, hc, Bool.false_eq_true,
      if_false, pure_apply]
    rfl
  | cons d ds ih =>
    obtain ⟨n, rfl⟩ := Nat.exists_eq_succ_of_ne_zero (Nat.ne_of_gt (Nat.zero_lt_of_lt hn))
    rw [List.map_cons, List.cons_append] at hrest
    have hs' : (s.skipped 1).dangling = false := hs
    have htail : takeSome hit n (s.skipped 1) =
        .ok (ds, (s.skipped 1).skipped ds.length) := by
      apply ih (fun e he => hds e (by simp [he])) (Nat.lt_of_succ_lt_succ hn) hs'
      simp [Scan.skipped, hrest]
    simp only [takeSome, bind_apply, peek_apply, hrest, List.head?_cons, hds d (by simp), if_true,
      take_plain hs hrest, htail, pure_apply]
    simp [Scan.skipped, hrest, Nat.add_comm, Nat.add_left_comm]

/-! ### Counts -/

/-- The pattern of a letter that is repeated as often as a row of digits says. -/
def counted (ds : List Char) : List Char := 'x' :: '\x7b' :: (ds ++ ['\x7d'])

/-- Without a backslash every character is a token. -/
theorem tokensOf_of_not_mem {cs : List Char} (h : '\\' ∉ cs) :
    tokensOf cs = (cs.map .plain, false) := by
  induction cs with
  | nil => rfl
  | cons c cs ih =>
    simp only [List.mem_cons, not_or] at h
    obtain ⟨hc, hcs⟩ := h
    rw [tokensOf]
    · rw [ih hcs]
      rfl
    · rintro rfl
      exact fun _ => hc rfl
    · rintro _ _ rfl
      exact fun _ => hc rfl

theorem tokensOf_counted {ds : List Char} (hds : ∀ d ∈ ds, isAsciiDigit d = true) :
    tokensOf (counted ds) = ((counted ds).map .plain, false) := by
  apply tokensOf_of_not_mem
  intro hmem
  simp only [counted, List.mem_cons, List.mem_append, List.not_mem_nil, or_false] at hmem
  rcases hmem with hx | hopen | hd | hclose
  · exact absurd hx (by decide)
  · exact absurd hopen (by decide)
  · exact absurd (hds _ hd) (by decide)
  · exact absurd hclose (by decide)

theorem readCount_long {ds : List Char} (hlong : digitLimit < ds.length) (s : Scan) :
    readCount ds s = .error ⟨.countTooLong ds.length, none⟩ := by
  unfold readCount
  have hne : ds.isEmpty = false := by
    cases ds with
    | nil => cases hlong
    | cons d ds => rfl
  rw [hne, if_neg (by simp), if_pos hlong]
  rfl

theorem readBraces_long {ds : List Char} (hds : ∀ d ∈ ds, isAsciiDigit d = true)
    (hlong : digitLimit < ds.length) {s : Scan} (hs : s.dangling = false)
    (hrest : s.rest = (ds ++ ['\x7d']).map .plain) :
    readBraces s = .error ⟨.countTooLong ds.length, none⟩ := by
  rw [List.map_append, List.map_singleton] at hrest
  have hhead : s.rest.head? ≠ some (.plain '\x7d') := by
    rw [hrest]
    cases ds with
    | nil => cases hlong
    | cons d ds =>
      intro h
      simp only [List.map_cons, List.cons_append, List.head?_cons, Option.some.injEq,
        Token.plain.injEq] at h
      have hd := hds d (by simp)
      rw [h] at hd
      cases hd
  have hrow : takeSome isAsciiDigit s.rest.length s = .ok (ds, s.skipped ds.length) := by
    apply takeSome_row hds (by decide) _ hs hrest
    simp [hrest]
  have hbehind : (s.skipped ds.length).rest = [.plain '\x7d'] := by
    simp [Scan.skipped, hrest]
  have hclose : (s.skipped ds.length).dangling = false := hs
  unfold readBraces
  simp only [bind_apply, get_apply, peek_apply, if_neg hhead, takeAll, hrow,
    accept_other hbehind (c := ',') (by decide), Bool.false_eq_true, if_false, pure_apply,
    accept_plain hclose hbehind, Bool.not_true, readCount_long hlong]

/-- A brace with too many digits behind it stops the reading of a sequence. -/
theorem sequence_long {ds : List Char} (hds : ∀ d ∈ ds, isAsciiDigit d = true)
    (hlong : digitLimit < ds.length) (n depth : Nat) (leading : Bool) (parts : List Part)
    {s : Scan} (hs : s.dangling = false)
    (hrest : s.rest = ('\x7b' :: (ds ++ ['\x7d'])).map .plain) :
    sequence (n + 1) depth false leading parts s = .error ⟨.countTooLong ds.length, none⟩ := by
  rw [List.map_cons] at hrest
  have htaken : (s.skipped 1).dangling = false := hs
  have hbehind : (s.skipped 1).rest = (ds ++ ['\x7d']).map .plain := by
    simp [Scan.skipped, hrest]
  have hbounds : readBounds '\x7b' (s.skipped 1) = .error ⟨.countTooLong ds.length, none⟩ := by
    rw [readBounds, if_neg (by decide), if_neg (by decide), if_neg (by decide)]
    exact readBraces_long hds hlong htaken hbehind
  rw [sequence]
  simp [bind_apply, peek_apply, get_apply, take_plain hs hrest, hrest, hbounds]

/-- A count with more digits than a number may have is a foreign fault. -/
theorem ofText_counted {ds : List Char} (hds : ∀ d ∈ ds, isAsciiDigit d = true)
    (hlong : digitLimit < ds.length) :
    ofText (counted ds) = .error ⟨.countTooLong ds.length, none⟩ := by
  have hsequence : ∀ (n : Nat) (s : Scan), s.dangling = false → s.rest = (counted ds).map .plain →
      sequence (n + 2) 0 false true [] s = .error ⟨.countTooLong ds.length, none⟩ := by
    intro n s hs hrest
    have htaken : (s.skipped 1).dangling = false := hs
    have hbehind : (s.skipped 1).rest = ('\x7b' :: (ds ++ ['\x7d'])).map .plain := by
      simp [Scan.skipped, hrest, counted]
    rw [counted, List.map_cons] at hrest
    rw [sequence]
    simp [bind_apply, peek_apply, get_apply, take_plain hs hrest, hrest,
      sequence_long hds hlong n _ _ _ htaken hbehind]
  have halternatives : alternatives (3 * (counted ds).length + 3) 0 false []
      { rest := (counted ds).map .plain, dangling := false } =
      .error ⟨.countTooLong ds.length, none⟩ := by
    rw [alternatives, if_neg (by decide), bind_apply]
    simp [hsequence]
  unfold ofText
  rw [tokensOf_counted hds]
  simp only [Bool.and_false, Bool.false_eq_true, if_false, StateT.run, halternatives]

end Pattern

end MergeGate
