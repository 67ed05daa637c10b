import Mathlib.Tactic.MkIffOfInductiveProp
import Mathlib.Tactic.SplitIfs
import MergeGate.Text.Utf8

/-
  MergeGate/Proofs/Text/Utf8.lean
  ===============================
  **Octets that are text.**  Reading octets as UTF-8 gives a text exactly if they are what is written
  for this text (`decode_utf8_eq_ok_iff`).  So every text is read back, no two rows of octets are the
  same text, and what is refused is written for no text at all.

  Both directions go character by character: what is written for a character is read as this
  character (`decodeUtf8From_encodeChar`), and the octets that are read as one character are those
  that are written for it (`encodeChar_one` to `encodeChar_four`).
-/

namespace MergeGate.Text

/-! ### Numbers as octets and as characters -/

theorem toNat_toUInt8 {n : Nat} (h : n < 256) : n.toUInt8.toNat = n := by
  rw [Nat.toUInt8_eq, UInt8.toNat_ofNat', Nat.mod_eq_of_lt h]

theorem toUInt8_eq {b : UInt8} {n : Nat} (h : n = b.toNat) : n.toUInt8 = b := by
  rw [h, Nat.toUInt8_eq, UInt8.ofNat_toNat]

theorem toNat_charOfNat {n : Nat} (h : n.isValidChar) : (Char.ofNat n).toNat = n := by
  rw [Char.ofNat, dif_pos h]
  rfl

theorem charOfNat_eq {c : Char} {n : Nat} (h : n = c.toNat) : Char.ofNat n = c := by
  rw [h, Char.ofNat_toNat]

/-! ### The first two octets -/

/-- An octet that continues a character. -/
def IsTail (b : UInt8) : Prop := 0x80 ≤ b.toNat ∧ b.toNat ≤ 0xbf

theorem isTail_iff (b : UInt8) : IsTail b ↔ (b < 0x80 || 0xbf < b) = false := by
  simp only [IsTail, Bool.or_eq_false_iff, decide_eq_false_iff_not, UInt8.lt_iff_toNat_lt,
    UInt8.reduceToNat]
  omega

theorem isTail_toUInt8 {n : Nat} (h : n < 64) : IsTail (0x80 + n).toUInt8 := by
  rw [IsTail, toNat_toUInt8 (by omega)]
  omega

/-- The second octet continues the first one: four first octets leave it less room than any other,
    so that no character is written longer than it need be, is a half of a pair or lies beyond the
    last character. -/
@[mk_iff]
structure Continues (b b₁ : UInt8) : Prop where
  isTail : IsTail b₁
  afterE0 : b.toNat = 0xe0 → 0xa0 ≤ b₁.toNat
  afterED : b.toNat = 0xed → b₁.toNat ≤ 0x9f
  afterF0 : b.toNat = 0xf0 → 0x90 ≤ b₁.toNat
  afterF4 : b.toNat = 0xf4 → b₁.toNat ≤ 0x8f

/-- How many octets follow a first octet. -/
def followCount (b : UInt8) : Nat := if b.toNat ≤ 0xdf then 1 else if b.toNat ≤ 0xef then 2 else 3

/-- The octets that begin a character of several are those from `0xc2` to `0xf4`. -/
theorem utf8Follow_eq_none_iff (b : UInt8) :
    utf8Follow b = none ↔ b.toNat < 0xc2 ∨ 0xf4 < b.toNat := by
  simp only [utf8Follow, UInt8.lt_iff_toNat_lt, UInt8.le_iff_toNat_le, ← UInt8.toNat_inj,
    UInt8.reduceToNat]
  split_ifs <;> simp <;> omega

theorem utf8Follow_eq_some {b low high : UInt8} {more : Nat}
    (h : utf8Follow b = some (low, high, more)) :
    more = followCount b ∧ ∀ b₁ : UInt8, (b₁ < low || high < b₁) = false ↔ Continues b b₁ := by
  simp only [continues_iff, IsTail, followCount, Bool.or_eq_false_iff, decide_eq_false_iff_not,
    UInt8.lt_iff_toNat_lt]
  simp only [utf8Follow, UInt8.lt_iff_toNat_lt, UInt8.le_iff_toNat_le, ← UInt8.toNat_inj,
    UInt8.reduceToNat] at h
  split_ifs at h <;> cases h <;> simp only [UInt8.reduceToNat] <;> constructor
  all_goals first | (split_ifs <;> omega) | (intro b₁; omega)

theorem not_ascii_of_le {b : UInt8} (h : 0x80 ≤ b.toNat) : ¬ b < 0x80 := by
  rw [UInt8.lt_iff_toNat_lt]
  exact Nat.not_lt.mpr h

/-! ### Reading one character -/

section Reading

variable {b b₁ b₂ b₃ : UInt8} (i : Nat) (done : List Char) (bs : List UInt8)

theorem exists_utf8Follow (h : 0xc2 ≤ b.toNat ∧ b.toNat ≤ 0xf4) (h₁ : Continues b b₁) :
    ¬ b < 0x80 ∧ ∃ low high, utf8Follow b = some (low, high, followCount b) ∧
      (b₁ < low || high < b₁) = false := by
  refine ⟨not_ascii_of_le (by omega), ?_⟩
  cases hfollow : utf8Follow b with
  | none =>
    have := (utf8Follow_eq_none_iff b).mp hfollow
    omega
  | some p =>
    obtain ⟨low, high, more⟩ := p
    obtain ⟨rfl, hfits⟩ := utf8Follow_eq_some hfollow
    exact ⟨low, high, rfl, (hfits b₁).mpr h₁⟩

theorem decodeUtf8From_two (h : 0xc2 ≤ b.toNat ∧ b.toNat ≤ 0xdf) (h₁ : Continues b b₁) :
    decodeUtf8From i done (b :: b₁ :: bs) = decodeUtf8From (i + 2)
      (Char.ofNat ((b.toNat - 0xc0) * 64 + (b₁.toNat - 0x80)) :: done) bs := by
  obtain ⟨hb, low, high, hfollow, hfits⟩ := exists_utf8Follow (by omega) h₁
  have hcount : followCount b = 1 := if_pos h.2
  rw [decodeUtf8From]
  simp [hb, hfollow, hfits, hcount]

theorem decodeUtf8From_three (h : 0xe0 ≤ b.toNat ∧ b.toNat ≤ 0xef) (h₁ : Continues b b₁)
    (h₂ : IsTail b₂) :
    decodeUtf8From i done (b :: b₁ :: b₂ :: bs) = decodeUtf8From (i + 3)
      (Char.ofNat ((b.toNat - 0xe0) * 4096 + (b₁.toNat - 0x80) * 64 + (b₂.toNat - 0x80)) :: done)
      bs := by
  obtain ⟨hb, low, high, hfollow, hfits⟩ := exists_utf8Follow (by omega) h₁
  have hcount : followCount b = 2 := by
    rw [followCount, if_neg (by omega), if_pos h.2]
  rw [decodeUtf8From]
  simp [hb, hfollow, hfits, hcount, (isTail_iff b₂).mp h₂]

theorem decodeUtf8From_four (h : 0xf0 ≤ b.toNat ∧ b.toNat ≤ 0xf4) (h₁ : Continues b b₁)
    (h₂ : IsTail b₂) (h₃ : IsTail b₃) :
    decodeUtf8From i done (b :: b₁ :: b₂ :: b₃ :: bs) = decodeUtf8From (i + 4)
      (Char.ofNat ((b.toNat - 0xf0) * 262144 + (b₁.toNat - 0x80) * 4096 + (b₂.toNat - 0x80) * 64
        + (b₃.toNat - 0x80)) :: done) bs := by
  obtain ⟨hb, low, high, hfollow, hfits⟩ := exists_utf8Follow (by omega) h₁
  have hcount : followCount b = 3 := by
    rw [followCount, if_neg (by omega), if_neg (by omega)]
  rw [decodeUtf8From]
  simp [hb, hfollow, hfits, hcount, (isTail_iff b₂).mp h₂, (isTail_iff b₃).mp h₃]

end Reading

/-- What is written for a character is read as this character, whatever follows. -/
theorem decodeUtf8From_encodeChar (c : Char) (i : Nat) (done : List Char) (bs : List UInt8) :
    decodeUtf8From i done (encodeChar c ++ bs) =
      decodeUtf8From (i + (encodeChar c).length) (c :: done) bs := by
  have hvalid : c.toNat < 0xd800 ∨ 0xdfff < c.toNat ∧ c.toNat < 0x110000 := c.valid
  unfold encodeChar
  dsimp only
  split_ifs with hone htwo hthree
  · have hb := toNat_toUInt8 (n := c.toNat) (by omega)
    have hsmall : c.toNat.toUInt8 < 0x80 := by
      rw [UInt8.lt_iff_toNat_lt, hb]
      exact hone
    rw [List.singleton_append, decodeUtf8From_ascii _ _ _ _ hsmall, charOfNat_eq hb]
    rfl
  · have hb := toNat_toUInt8 (n := 0xc0 + c.toNat / 64) (by omega)
    have htail := isTail_toUInt8 (n := c.toNat % 64) (by omega)
    have hb₁ := toNat_toUInt8 (n := 0x80 + c.toNat % 64) (by omega)
    rw [List.cons_append, List.singleton_append, decodeUtf8From_two _ _ _ (by omega)
      ⟨htail, by omega, by omega, by omega, by omega⟩, charOfNat_eq (c := c) (by omega)]
    rfl
  · have hb := toNat_toUInt8 (n := 0xe0 + c.toNat / 4096) (by omega)
    have htail := isTail_toUInt8 (n := c.toNat / 64 % 64) (by omega)
    have htail₂ := isTail_toUInt8 (n := c.toNat % 64) (by omega)
    have hb₁ := toNat_toUInt8 (n := 0x80 + c.toNat / 64 % 64) (by omega)
    have hb₂ := toNat_toUInt8 (n := 0x80 + c.toNat % 64) (by omega)
    rw [List.cons_append, List.cons_append, List.singleton_append,
      decodeUtf8From_three _ _ _ (by omega) ⟨htail, by omega, by omega, by omega, by omega⟩ htail₂,
      charOfNat_eq (c := c) (by omega)]
    rfl
  · have hb := toNat_toUInt8 (n := 0xf0 + c.toNat / 262144) (by omega)
    have htail := isTail_toUInt8 (n := c.toNat / 4096 % 64) (by omega)
    have htail₂ := isTail_toUInt8 (n := c.toNat / 64 % 64) (by omega)
    have htail₃ := isTail_toUInt8 (n := c.toNat % 64) (by omega)
    have hb₁ := toNat_toUInt8 (n := 0x80 + c.toNat / 4096 % 64) (by omega)
    have hb₂ := toNat_toUInt8 (n := 0x80 + c.toNat / 64 % 64) (by omega)
    have hb₃ := toNat_toUInt8 (n := 0x80 + c.toNat % 64) (by omega)
    rw [List.cons_append, List.cons_append, List.cons_append, List.singleton_append,
      decodeUtf8From_four _ _ _ (by omega) ⟨htail, by omega, by omega, by omega, by omega⟩ htail₂ htail₃,
      charOfNat_eq (c := c) (by omega)]
    rfl

/-! ### What is read was written -/

section Writing

variable {b b₁ b₂ b₃ : UInt8}

theorem encodeChar_one (h : b < 0x80) : encodeChar (Char.ofNat b.toNat) = [b] := by
  have hsmall : b.toNat < 0x80 := UInt8.lt_iff_toNat_lt.mp h
  rw [encodeChar, toNat_charOfNat (by omega)]
  simp only [if_pos hsmall, toUInt8_eq rfl]

theorem encodeChar_two (h : 0xc2 ≤ b.toNat ∧ b.toNat ≤ 0xdf) (h₁ : Continues b b₁) :
    encodeChar (Char.ofNat ((b.toNat - 0xc0) * 64 + (b₁.toNat - 0x80))) = [b, b₁] := by
  obtain ⟨htail, -⟩ := h₁
  unfold IsTail at htail
  rw [encodeChar, toNat_charOfNat (by omega)]
  rw [if_neg (by omega), if_pos (by omega), toUInt8_eq (b := b) (by omega),
    toUInt8_eq (b := b₁) (by omega)]

theorem encodeChar_three (h : 0xe0 ≤ b.toNat ∧ b.toNat ≤ 0xef) (h₁ : Continues b b₁)
    (h₂ : IsTail b₂) :
    encodeChar (Char.ofNat ((b.toNat - 0xe0) * 4096 + (b₁.toNat - 0x80) * 64 + (b₂.toNat - 0x80))) =
      [b, b₁, b₂] := by
  obtain ⟨htail, he0, hed, -, -⟩ := h₁
  unfold IsTail at htail h₂
  rw [encodeChar, toNat_charOfNat (by omega)]
  rw [if_neg (by omega), if_neg (by omega), if_pos (by omega), toUInt8_eq (b := b) (by omega),
    toUInt8_eq (b := b₁) (by omega), toUInt8_eq (b := b₂) (by omega)]

theorem encodeChar_four (h : 0xf0 ≤ b.toNat ∧ b.toNat ≤ 0xf4) (h₁ : Continues b b₁)
    (h₂ : IsTail b₂) (h₃ : IsTail b₃) :
    encodeChar (Char.ofNat ((b.toNat - 0xf0) * 262144 + (b₁.toNat - 0x80) * 4096 +
      (b₂.toNat - 0x80) * 64 + (b₃.toNat - 0x80))) = [b, b₁, b₂, b₃] := by
  obtain ⟨htail, -, -, hf0, hf4⟩ := h₁
  unfold IsTail at htail h₂ h₃
  rw [encodeChar, toNat_charOfNat (by omega)]
  rw [if_neg (by omega), if_neg (by omega), if_neg (by omega), toUInt8_eq (b := b) (by omega),
    toUInt8_eq (b := b₁) (by omega), toUInt8_eq (b := b₂) (by omega),
    toUInt8_eq (b := b₃) (by omega)]

theorem followCount_eq_one_iff (b : UInt8) : followCount b = 1 ↔ b.toNat ≤ 0xdf := by
  unfold followCount
  split_ifs <;> simp <;> omega

theorem followCount_eq_two_iff (b : UInt8) :
    followCount b = 2 ↔ 0xe0 ≤ b.toNat ∧ b.toNat ≤ 0xef := by
  unfold followCount
  split_ifs <;> simp <;> omega

/-- The range of a first octet that another octet continues, by the number of octets that follow. -/
theorem range_of_utf8Follow {low high : UInt8} {more : Nat}
    (h : utf8Follow b = some (low, high, more)) :
    0xc2 ≤ b.toNat ∧ b.toNat ≤ 0xf4 ∧ more = followCount b := by
  have hrange : ¬ (b.toNat < 0xc2 ∨ 0xf4 < b.toNat) := by
    rw [← utf8Follow_eq_none_iff, h]
    simp
  exact ⟨by omega, by omega, (utf8Follow_eq_some h).1⟩

theorem continues_of_utf8Follow {low high : UInt8} {more : Nat}
    (h : utf8Follow b = some (low, high, more)) (hfits : ¬ (b₁ < low || high < b₁) = true) :
    Continues b b₁ :=
  ((utf8Follow_eq_some h).2 b₁).mp (by simpa using hfits)

theorem isTail_of_not (h : ¬ (b < 0x80 || 0xbf < b) = true) : IsTail b :=
  (isTail_iff b).mpr (by simpa using h)

end Writing

/-! ### Whole texts -/

theorem encodeUtf8_cons (c : Char) (cs : List Char) :
    encodeUtf8 (c :: cs) = encodeChar c ++ encodeUtf8 cs := by
  rw [encodeUtf8, List.flatMap_cons, encodeUtf8]

theorem decodeUtf8From_encodeUtf8 (cs : List Char) (i : Nat) (done : List Char) :
    decodeUtf8From i done (encodeUtf8 cs) = .ok (done.reverse ++ cs) := by
  induction cs generalizing i done with
  | nil =>
    rw [List.append_nil]
    rfl
  | cons c cs ih =>
    rw [encodeUtf8_cons, decodeUtf8From_encodeChar, ih, List.reverse_cons, List.append_assoc,
      List.singleton_append]

/-- Once the octets in front are those of a character, the rest is looked at. -/
theorem exists_encodeUtf8 {c : Char} {done cs : List Char} {front bs : List UInt8}
    (hfront : encodeChar c = front)
    (h : ∃ ds, cs = (c :: done).reverse ++ ds ∧ encodeUtf8 ds = bs) :
    ∃ ds, cs = done.reverse ++ ds ∧ encodeUtf8 ds = front ++ bs := by
  obtain ⟨ds, rfl, rfl⟩ := h
  exact ⟨c :: ds, by simp, by rw [encodeUtf8_cons, hfront]⟩

/-- Octets that are read are those that are written for the text they are read as. -/
theorem encodeUtf8_of_decodeUtf8From {i : Nat} {done cs : List Char} {bs : List UInt8}
    (h : decodeUtf8From i done bs = .ok cs) :
    ∃ ds, cs = done.reverse ++ ds ∧ encodeUtf8 ds = bs := by
  fun_induction decodeUtf8From i done bs
  case case1 =>
    cases h
    exact ⟨[], by simp, rfl⟩
  -- one, two, three and four octets
  case case2 hone ih => exact exists_encodeUtf8 (encodeChar_one hone) (ih h)
  case case6 hfits hfollow ih =>
    obtain ⟨hlow, -, hcount⟩ := range_of_utf8Follow hfollow
    have hhigh := (followCount_eq_one_iff _).mp hcount.symm
    exact exists_encodeUtf8 (encodeChar_two ⟨hlow, hhigh⟩ (continues_of_utf8Follow hfollow hfits)) (ih h)
  case case9 hfits _ _ hfits₂ hfollow _ ih =>
    obtain ⟨-, -, hcount⟩ := range_of_utf8Follow hfollow
    have hb := (followCount_eq_two_iff _).mp hcount.symm
    exact exists_encodeUtf8
      (encodeChar_three hb (continues_of_utf8Follow hfollow hfits) (isTail_of_not hfits₂)) (ih h)
  case case12 hfollow _ hfits hone _ hfits₂ htwo _ _ hfits₃ ih =>
    obtain ⟨hlow, hhigh, rfl⟩ := range_of_utf8Follow hfollow
    rw [followCount_eq_one_iff] at hone
    rw [followCount_eq_two_iff] at htwo
    exact exists_encodeUtf8 (encodeChar_four (by omega) (continues_of_utf8Follow hfollow hfits)
      (isTail_of_not hfits₂) (isTail_of_not hfits₃)) (ih h)
  all_goals cases h

/-- **Octets are read as a text exactly if they are written for it.** -/
theorem decode_utf8_eq_ok_iff (bs : List UInt8) (cs : List Char) :
    Encoding.utf8.decode bs = .ok cs ↔ encodeUtf8 cs = bs := by
  constructor
  · intro h
    obtain ⟨ds, rfl, hds⟩ := encodeUtf8_of_decodeUtf8From h
    exact hds
  · rintro rfl
    exact decodeUtf8From_encodeUtf8 cs 0 []

end MergeGate.Text
