import MergeGate.Json.Reader
import MergeGate.Json.Writer
import MergeGate.Proofs.Text.Numeral
import MergeGate.Proofs.Text.Words

/-
  MergeGate/Proofs/Json/RoundTrip.lean
  ====================================
  **Reading JSON that was written.**  `IsData` singles out the values that a text keeps: numbers are
  integers of at most `digitLimit` digits, the members of an object have different names, and lists
  and objects are nested no deeper than a limit.  Whatever the indent, the text of such a value is
  read to this value (`IsData.read_write`).

  The reader stops where the writer stopped as long as the text goes on with something that cannot
  belong to a number (`Parts`).  The induction is on `IsData`, and the fuel that is left is at least
  twice the length of what is still to be read.
-/

namespace MergeGate.Json

open MergeGate.Text

/-- A value that is nested at most `depth` levels deep, with integers as its only numbers and with
    each name once in an object. -/
inductive IsData : Nat → Json → Prop where
  | null {depth : Nat} : IsData depth .null
  | bool {depth : Nat} (b : Bool) : IsData depth (.bool b)
  | int {depth : Nat} {n : Int} (h : (numeral n.natAbs).length ≤ digitLimit) : IsData depth (.int n)
  | text {depth : Nat} (s : String) : IsData depth (.text s)
  | list {depth : Nat} {xs : List Json} (h : ∀ x ∈ xs, IsData depth x) :
      IsData (depth + 1) (.list xs)
  | object {depth : Nat} {ms : Members} (hnames : (ms.map Prod.fst).Nodup)
      (h : ∀ m ∈ ms, IsData depth m.2) : IsData (depth + 1) (.object ms)

/-! ### Texts -/

theorem hexValue?_hexDigit {d : Nat} (h : d < 16) : hexValue? (hexDigit d) = some d := by
  have hall : ∀ d < 16, hexValue? (hexDigit d) = some d := by decide
  exact hall d h

theorem readCode?_hex {n : Nat} (h : n < 65536) (rest : List Char) :
    readCode? (hex 4 n ++ rest) = some (n, rest) := by
  have hdigit : ∀ k, hexValue? (hexDigit (k % 16)) = some (k % 16) := by
    intro k
    exact hexValue?_hexDigit (Nat.mod_lt k (by decide))
  have hvalue : ((n / 16 / 16 / 16 % 16 * 16 + n / 16 / 16 % 16) * 16 + n / 16 % 16) * 16 + n % 16 =
      n := by omega
  simp [hex, readCode?, hdigit, hvalue]

/-- One written character is read in one step, as long as the text goes on. -/
theorem readText_escapeChar (c : Char) {more : List Char} (hmore : more ≠ []) (fuel : Nat)
    (done : List Char) :
    readText (fuel + 1) done (escapeChar c ++ more) = readText fuel (c :: done) more := by
  unfold escapeChar
  by_cases hquote : c = '\x22'
  · simp [hquote, readText, escaped?]
  by_cases hslash : c = '\\'
  · simp [hslash, readText, escaped?]
  by_cases hfeed : c = '\n'
  · simp [hfeed, readText, escaped?]
  by_cases hreturn : c = '\r'
  · simp [hreturn, readText, escaped?]
  by_cases htab : c = '\t'
  · simp [htab, readText, escaped?]
  by_cases hpage : c = '\x0c'
  · simp [hpage, readText, escaped?]
  by_cases hback : c = '\x08'
  · simp [hback, readText, escaped?]
  rw [if_neg hquote, if_neg hslash, if_neg hfeed, if_neg hreturn, if_neg htab, if_neg hpage,
    if_neg hback]
  -- what is left is a control character, which is written as a code, or stands for itself
  by_cases hcontrol : c.toNat < 0x20
  · have hcode : readCode? (hex 4 c.toNat ++ more) = some (c.toNat, more) :=
      readCode?_hex (by omega) more
    have hhigh : isHighHalf c.toNat = false := by
      simp only [isHighHalf, Bool.and_eq_false_iff, decide_eq_false_iff_not]
      omega
    have hlow : isLowHalf c.toNat = false := by
      simp only [isLowHalf, Bool.and_eq_false_iff, decide_eq_false_iff_not]
      omega
    simp [hcontrol, readText, hcode, hmore, hhigh, hlow, charOfCode, Char.ofNat_toNat]
  · have hprinted : ¬ c.toNat ≤ 0x1f := by omega
    simp [hcontrol, readText, hquote, hslash, hprinted]

theorem length_le_escaped (cs : List Char) : cs.length ≤ (cs.flatMap escapeChar).length := by
  induction cs with
  | nil => exact Nat.le_refl _
  | cons c cs ih =>
    have hpos : 0 < (escapeChar c).length := by
      unfold escapeChar
      repeat' split
      all_goals simp
    rw [List.flatMap_cons, List.length_append, List.length_cons]
    omega

theorem readText_escaped (cs : List Char) {fuel : Nat} (hfuel : cs.length < fuel)
    (done rest : List Char) :
    readText fuel done (cs.flatMap escapeChar ++ '\x22' :: rest) =
      .ok (String.ofList (done.reverse ++ cs), rest) := by
  induction cs generalizing fuel done with
  | nil =>
    obtain ⟨fuel, rfl⟩ : ∃ f, fuel = f + 1 := ⟨fuel - 1, by simp at hfuel; omega⟩
    simp [readText]
  | cons c cs ih =>
    obtain ⟨fuel, rfl⟩ : ∃ f, fuel = f + 1 := ⟨fuel - 1, by simp at hfuel; omega⟩
    have hmore : cs.flatMap escapeChar ++ '\x22' :: rest ≠ [] := by simp
    rw [List.flatMap_cons, List.append_assoc, readText_escapeChar c hmore, ih (by simpa using hfuel)]
    simp

theorem readText_writeText (s : String) (fuel : Nat) (hfuel : (writeText s).length ≤ fuel + 1)
    (rest : List Char) :
    readText fuel [] (s.toList.flatMap escapeChar ++ '\x22' :: rest) = .ok (s, rest) := by
  have hlength := length_le_escaped s.toList
  have htext : (writeText s).length = (s.toList.flatMap escapeChar).length + 2 := by
    simp [writeText]
  rw [readText_escaped s.toList (by omega)]
  simp

/-! ### Numbers -/

/-- Nothing that could belong to a number comes first. -/
def Parts (rest : List Char) : Prop :=
  ∀ c ∈ rest.head?, isAsciiDigit c = false ∧ c ≠ '.' ∧ c ≠ 'e' ∧ c ≠ 'E'

theorem parts_cons {c : Char} (h : isAsciiDigit c = false ∧ c ≠ '.' ∧ c ≠ 'e' ∧ c ≠ 'E')
    (cs : List Char) : Parts (c :: cs) := by
  intro d hd
  cases hd
  exact h

theorem readFraction_of_parts {rest : List Char} (h : Parts rest) : readFraction rest = ([], rest) := by
  cases rest with
  | nil => rfl
  | cons c cs =>
    have hpoint : c ≠ '.' := (h c rfl).2.1
    simp [readFraction, hpoint]

theorem readExponent_of_parts {rest : List Char} (h : Parts rest) :
    readExponent rest = (none, rest) := by
  cases rest with
  | nil => rfl
  | cons c cs =>
    obtain ⟨-, -, hsmall, hlarge⟩ := h c rfl
    simp [readExponent, hsmall, hlarge]

theorem readNumber_numeral {n : Nat} (hlength : (numeral n).length ≤ digitLimit)
    {rest : List Char} (hrest : Parts rest) (negative : Bool) :
    readNumber negative (numeral n ++ rest) =
      some (.ok (.int (if negative then -(n : Int) else n), rest)) := by
  have hspan : spanDigits (numeral n ++ rest) = (numeral n, rest) :=
    span_append (fun _ => isAsciiDigit_of_mem_numeral) fun c hc => (hrest c hc).1
  have hvalue := numeralValue_numeral n
  have hfraction := readFraction_of_parts hrest
  have hexponent := readExponent_of_parts hrest
  have hshort : ¬ digitLimit < (numeral n).length := by omega
  -- a zero ends the digits at once, so the numeral of zero is read apart from the others
  rcases numeral_first n with hzero | ⟨c, ds, hfirst, hc⟩
  · rw [hzero] at hvalue hshort ⊢
    simp only [List.length_singleton] at hshort
    simp [readNumber, hfraction, hexponent, hshort, hvalue]
  · have hdigit : isAsciiDigit c = true := isAsciiDigit_of_mem_numeral (n := n) (by simp [hfirst])
    rw [hfirst] at hvalue hshort hspan ⊢
    simp only [List.length_cons] at hshort
    rw [List.cons_append] at hspan ⊢
    simp [readNumber, hc, hdigit, hspan, hfraction, hexponent, hshort, hvalue]

theorem dropLead_of_first_ne {p c : Char} (h : p ≠ c) (ps cs : List Char) :
    dropLead (p :: ps) (c :: cs) = none := by
  simp [dropLead, h]

theorem readScalar_digit {c : Char} (hdigit : isAsciiDigit c = true) (cs : List Char) :
    readScalar (c :: cs) =
      (readNumber false (c :: cs)).getD (.error (.malformed .expectedValue (c :: cs).length)) := by
  have hne : ∀ p : Char, isAsciiDigit p = false → p ≠ c := by
    rintro p hp rfl
    rw [hdigit] at hp
    cases hp
  have hminus : c ≠ '-' := (hne '-' (by decide)).symm
  simp only [readScalar, dropLead_of_first_ne (hne 'n' (by decide)),
    dropLead_of_first_ne (hne 't' (by decide)), dropLead_of_first_ne (hne 'f' (by decide)),
    dropLead_of_first_ne (hne 'N' (by decide)), dropLead_of_first_ne (hne 'I' (by decide)),
    dropLead_of_first_ne (hne '-' (by decide))]
  split
  · rename_i rest hsplit
    cases hsplit
    exact absurd rfl hminus
  · rfl

theorem readScalar_minus {c : Char} (hdigit : isAsciiDigit c = true) (cs : List Char) :
    readScalar ('-' :: c :: cs) =
      (readNumber true (c :: cs)).getD
        (.error (.malformed .expectedValue ('-' :: c :: cs).length)) := by
  have hne : 'I' ≠ c := by
    rintro rfl
    exact absurd hdigit (by decide)
  simp [readScalar, dropLead, hne]

theorem integer_first (n : Int) :
    ∃ c cs, integer n = c :: cs ∧ (c = '-' ∨ isAsciiDigit c = true) := by
  obtain ⟨c, ds, hfirst, hdigit⟩ := exists_numeral_cons n.natAbs
  unfold integer
  by_cases hnegative : n < 0
  · exact ⟨'-', _, if_pos hnegative, .inl rfl⟩
  · exact ⟨c, ds, by rw [if_neg hnegative, hfirst], .inr hdigit⟩

theorem readScalar_integer {n : Int} (hlength : (numeral n.natAbs).length ≤ digitLimit)
    {rest : List Char} (hrest : Parts rest) :
    readScalar (integer n ++ rest) = .ok (.int n, rest) := by
  obtain ⟨c, ds, hfirst, hdigit⟩ := exists_numeral_cons n.natAbs
  have hnumber := readNumber_numeral hlength hrest
  rw [hfirst] at hnumber
  unfold integer
  by_cases hnegative : n < 0
  · have hvalue : -(n.natAbs : Int) = n := by omega
    have htrue := hnumber true
    rw [if_pos rfl, hvalue] at htrue
    rw [if_pos hnegative, hfirst, List.cons_append, List.cons_append, readScalar_minus hdigit,
      ← List.cons_append, htrue]
    rfl
  · have hvalue : (n.natAbs : Int) = n := by omega
    have hfalse := hnumber false
    rw [if_neg (by decide), hvalue] at hfalse
    rw [if_neg hnegative, hfirst, List.cons_append, readScalar_digit hdigit, ← List.cons_append,
      hfalse]
    rfl

/-! ### Gaps -/

theorem skipGap_append {g : List Char} (hg : ∀ c ∈ g, isGap c = true) (cs : List Char) :
    skipGap (g ++ cs) = skipGap cs := by
  rw [skipGap, List.dropWhile_append_of_pos hg]
  rfl

theorem skipGap_cons {c : Char} (h : isGap c = false) (cs : List Char) :
    skipGap (c :: cs) = c :: cs := by
  simp [skipGap, h]

theorem isGap_of_mem_lineBreak {indent : Option Int} {level : Nat} {c : Char}
    (h : c ∈ lineBreak indent level) : isGap c = true := by
  cases indent with
  | none => cases h
  | some n =>
    rcases List.mem_cons.mp h with rfl | hblank
    · rfl
    · rw [List.eq_of_mem_replicate hblank]
      rfl

theorem skipGap_lineBreak (indent : Option Int) (level : Nat) (cs : List Char) :
    skipGap (lineBreak indent level ++ cs) = skipGap cs :=
  skipGap_append (fun _ => isGap_of_mem_lineBreak) cs

theorem parts_lineBreak (indent : Option Int) (level : Nat) {c : Char}
    (h : isAsciiDigit c = false ∧ c ≠ '.' ∧ c ≠ 'e' ∧ c ≠ 'E') (cs : List Char) :
    Parts (lineBreak indent level ++ c :: cs) := by
  cases indent with
  | none => exact parts_cons h cs
  | some n => exact parts_cons (by decide) _

theorem exists_colon (indent : Option Int) :
    ∃ g, colon indent = ':' :: g ∧ ∀ c ∈ g, isGap c = true := by
  cases indent with
  | none => exact ⟨[], rfl, by simp⟩
  | some n => exact ⟨[' '], rfl, by simp [isGap]⟩

theorem apart_of_isAsciiDigit {c : Char} (h : isAsciiDigit c = true) :
    isGap c = false ∧ c ≠ ']' ∧ c ≠ '\ufeff' := by
  have hne : ∀ d, isAsciiDigit d = false → c ≠ d := by
    rintro d hd rfl
    rw [h] at hd
    cases hd
  refine ⟨?_, hne ']' (by decide), hne '\ufeff' (by decide)⟩
  simp [isGap, hne ' ' (by decide), hne '\t' (by decide), hne '\n' (by decide), hne '\r' (by decide)]

/-- A written value begins with a character that is no gap, no end of a list and no byte order mark. -/
theorem IsData.first {depth : Nat} {v : Json} (h : IsData depth v) (indent : Option Int)
    (level : Nat) : ∃ c cs, writeAt indent level v = c :: cs ∧
      isGap c = false ∧ c ≠ ']' ∧ c ≠ '\ufeff' := by
  cases h with
  | null => exact ⟨_, _, rfl, by decide⟩
  | bool b => cases b <;> exact ⟨_, _, rfl, by decide⟩
  | int hlength =>
    rename_i n
    obtain ⟨c, cs, hfirst, hc⟩ := integer_first n
    rw [writeAt]
    refine ⟨c, cs, hfirst, ?_⟩
    rcases hc with rfl | hdigit
    · decide
    · exact apart_of_isAsciiDigit hdigit
  | text s => exact ⟨_, _, rfl, by decide⟩
  | list hxs =>
    rename_i depth xs
    cases xs <;> exact ⟨_, _, rfl, by decide⟩
  | object hnames hms =>
    rename_i depth ms
    cases ms <;> exact ⟨_, _, rfl, by decide⟩

theorem IsData.length_pos {depth : Nat} {v : Json} (h : IsData depth v) (indent : Option Int)
    (level : Nat) : 0 < (writeAt indent level v).length := by
  obtain ⟨c, ds, hfirst, -⟩ := h.first indent level
  rw [hfirst]
  exact Nat.succ_pos _

theorem IsData.skipGap_write {depth : Nat} {v : Json} (h : IsData depth v) (indent : Option Int)
    (level : Nat) (cs : List Char) :
    skipGap (writeAt indent level v ++ cs) = writeAt indent level v ++ cs := by
  obtain ⟨c, ds, hfirst, hgap, -⟩ := h.first indent level
  rw [hfirst, List.cons_append, skipGap_cons hgap]

/-! ### Lists and objects -/

section Values

variable {depth level : Nat} {indent : Option Int}

/-- The reader gives a value back from its text, wherever the text goes on. -/
def ReadsBack (depth level : Nat) (indent : Option Int) (v : Json) : Prop :=
  ∀ fuel rest, 2 * (writeAt indent level v).length ≤ fuel → Parts rest →
    readValue fuel depth (writeAt indent level v ++ rest) = .ok (v, rest)

theorem IsData.readsBack_of_succ {v : Json} (h : IsData depth v)
    (hread : ∀ fuel rest, 2 * (writeAt indent level v).length ≤ fuel + 1 → Parts rest →
      readValue (fuel + 1) depth (writeAt indent level v ++ rest) = .ok (v, rest)) :
    ReadsBack depth level indent v := by
  intro fuel rest hfuel hrest
  -- no value is written with an empty text, so there is fuel to begin with
  have hpos := h.length_pos indent level
  obtain ⟨fuel, rfl⟩ : ∃ f, fuel = f + 1 := ⟨fuel - 1, by omega⟩
  exact hread fuel rest hfuel hrest

theorem parts_writeItems (indent : Option Int) (level : Nat) (xs : List Json) (outer : Nat)
    (rest : List Char) :
    Parts (writeItems indent level xs ++ (lineBreak indent outer ++ ']' :: rest)) := by
  cases xs with
  | nil => exact parts_lineBreak indent outer (by decide) rest
  | cons x xs => exact parts_cons (by decide) _

theorem parts_writeMembers (indent : Option Int) (level : Nat) (ms : Members) (outer : Nat)
    (rest : List Char) :
    Parts (writeMembers indent level ms ++ (lineBreak indent outer ++ '\x7d' :: rest)) := by
  cases ms with
  | nil => exact parts_lineBreak indent outer (by decide) rest
  | cons m ms => exact parts_cons (by decide) _

theorem readItems_write {x : Json} {xs : List Json}
    (hread : ∀ y ∈ x :: xs, ReadsBack depth level indent y)
    (hdata : ∀ y ∈ x :: xs, IsData depth y) (fuel : Nat)
    (hfuel : 2 * ((writeAt indent level x).length + (writeItems indent level xs).length) < fuel)
    (done : List Json) (outer : Nat) (rest : List Char) :
    readItems fuel depth done (writeAt indent level x ++
        (writeItems indent level xs ++ (lineBreak indent outer ++ ']' :: rest))) =
      .ok (.list (done.reverse ++ x :: xs), rest) := by
  induction xs generalizing x fuel done with
  | nil =>
    obtain ⟨fuel, rfl⟩ : ∃ f, fuel = f + 1 := ⟨fuel - 1, by omega⟩
    have hx := hread x (by simp) fuel _ (by omega) (parts_writeItems indent level [] outer rest)
    simp only [readItems, hx]
    simp [writeItems, skipGap_lineBreak, skipGap_cons (c := ']') rfl]
  | cons y ys ih =>
    obtain ⟨fuel, rfl⟩ : ∃ f, fuel = f + 1 := ⟨fuel - 1, by omega⟩
    simp only [writeItems, List.length_cons, List.length_append] at hfuel
    have hx := hread x (by simp) fuel _ (by omega) (parts_writeItems indent level (y :: ys) outer rest)
    have hys := ih (x := y) (fun z hz => hread z (by simp [hz])) (fun z hz => hdata z (by simp [hz]))
      fuel (by omega) (x :: done)
    have hgap := (hdata y (by simp)).skipGap_write indent level
    simp only [readItems, hx]
    simp only [writeItems, List.cons_append, List.append_assoc, skipGap_cons (c := ',') rfl,
      skipGap_lineBreak, hgap, hys]
    simp

theorem readMembers_write {k : String} {v : Json} {ms : Members}
    (hread : ∀ m ∈ (k, v) :: ms, ReadsBack depth level indent m.2)
    (hdata : ∀ m ∈ (k, v) :: ms, IsData depth m.2) (fuel : Nat)
    (hfuel : 2 * ((writeText k).length + (writeAt indent level v).length +
      (writeMembers indent level ms).length) < fuel)
    (done : Members) (outer : Nat) (rest : List Char) :
    readMembers fuel depth done (writeText k ++ (colon indent ++ (writeAt indent level v ++
        (writeMembers indent level ms ++ (lineBreak indent outer ++ '\x7d' :: rest))))) =
      .ok (.object (Members.ofList (done.reverse ++ (k, v) :: ms)), rest) := by
  obtain ⟨g, hcolon, hg⟩ := exists_colon indent
  -- the names read so far are in `done`; which of them count is settled at the end of the object
  induction ms generalizing k v fuel done with
  | nil =>
    obtain ⟨fuel, rfl⟩ : ∃ f, fuel = f + 1 := ⟨fuel - 1, by omega⟩
    have hk := readText_writeText k fuel (by omega)
    have hback : ReadsBack depth level indent v := hread (k, v) (by simp)
    have hv := hback fuel _ (by omega) (parts_writeMembers indent level [] outer rest)
    have hgap := (hdata (k, v) (by simp)).skipGap_write indent level
    simp only [writeText_eq, List.cons_append, List.append_assoc, readMembers, List.nil_append, hk,
      hcolon, skipGap_cons (c := ':') rfl, skipGap_append hg, hgap, hv]
    simp [writeMembers, skipGap_lineBreak, skipGap_cons (c := '\x7d') rfl]
  | cons m ms ih =>
    obtain ⟨l, w⟩ := m
    obtain ⟨fuel, rfl⟩ : ∃ f, fuel = f + 1 := ⟨fuel - 1, by omega⟩
    simp only [writeMembers, List.length_cons, List.length_append] at hfuel
    have hk := readText_writeText k fuel (by omega)
    have hback : ReadsBack depth level indent v := hread (k, v) (by simp)
    have hv := hback fuel _ (by omega) (parts_writeMembers indent level ((l, w) :: ms) outer rest)
    have hms := ih (k := l) (v := w) (fun z hz => hread z (by simp [hz]))
      (fun z hz => hdata z (by simp [hz])) fuel (by omega) ((k, v) :: done)
    have hgap := (hdata (k, v) (by simp)).skipGap_write indent level
    simp only [writeText_eq, List.cons_append, List.append_assoc, List.nil_append] at hms
    simp only [writeText_eq, List.cons_append, List.append_assoc, readMembers, List.nil_append, hk,
      hcolon, skipGap_cons (c := ':') rfl, skipGap_append hg, hgap, hv]
    simp only [writeMembers, writeText_eq, List.cons_append, List.append_assoc, List.nil_append,
      skipGap_cons (c := ',') rfl, skipGap_lineBreak, skipGap_cons (c := '\x22') rfl, hms]
    simp

end Values

/-! ### Values -/

theorem Members.put_of_not_mem {ms : Members} {name : String} (h : name ∉ ms.map Prod.fst)
    (v : Json) : Members.put ms name v = ms ++ [(name, v)] := by
  induction ms with
  | nil => rfl
  | cons m ms ih =>
    obtain ⟨k, w⟩ := m
    simp only [List.map_cons, List.mem_cons, not_or] at h
    rw [Members.put, if_neg fun hk => h.1 hk.symm, ih h.2, List.cons_append]

/-- Members with different names stay as they are. -/
theorem Members.ofList_of_nodup {ms : Members} (h : (ms.map Prod.fst).Nodup) :
    Members.ofList ms = ms := by
  have hfold : ∀ (ms front : Members), ((front ++ ms).map Prod.fst).Nodup →
      ms.foldl (fun out m => Members.put out m.1 m.2) front = front ++ ms := by
    intro ms
    induction ms with
    | nil =>
      intro front _
      simp
    | cons m ms ih =>
      intro front hnodup
      have hnew : m.1 ∉ front.map Prod.fst := by
        intro hmem
        rw [List.map_append, List.nodup_append] at hnodup
        exact hnodup.2.2 m.1 hmem m.1 (by simp) rfl
      rw [List.foldl_cons, Members.put_of_not_mem hnew, ih]
      · simp
      · simpa using hnodup
  exact hfold ms [] h

theorem readValue_scalar {c : Char} (h : c ≠ '\x22' ∧ c ≠ '\x7b' ∧ c ≠ '[') (fuel depth : Nat)
    (cs : List Char) : readValue (fuel + 1) depth (c :: cs) = readScalar (c :: cs) := by
  simp [readValue, h]

theorem readValue_integer {n : Int} (hlength : (numeral n.natAbs).length ≤ digitLimit) {rest : List Char}
    (hrest : Parts rest) (fuel depth : Nat) :
    readValue (fuel + 1) depth (integer n ++ rest) = .ok (.int n, rest) := by
  obtain ⟨c, cs, hfirst, hc⟩ := integer_first n
  have hscalar := readScalar_integer hlength hrest
  rw [hfirst] at hscalar
  have happart : c ≠ '\x22' ∧ c ≠ '\x7b' ∧ c ≠ '[' := by
    rcases hc with rfl | hdigit
    · decide
    · refine ⟨?_, ?_, ?_⟩ <;>
        · rintro rfl
          exact absurd hdigit (by decide)
  rw [hfirst, List.cons_append, readValue_scalar happart, ← List.cons_append, hscalar]

theorem readValue_list {cs ds : List Char} {c : Char} (hcs : skipGap cs = c :: ds) (hc : c ≠ ']')
    (fuel depth : Nat) :
    readValue (fuel + 1) (depth + 1) ('[' :: cs) = readItems fuel depth [] (c :: ds) := by
  simp [readValue, hcs, hc]

theorem readValue_object {cs ds : List Char} {c : Char} (hcs : skipGap cs = c :: ds)
    (hc : c ≠ '\x7d') (fuel depth : Nat) :
    readValue (fuel + 1) (depth + 1) ('\x7b' :: cs) = readMembers fuel depth [] (c :: ds) := by
  simp [readValue, hcs, hc]

/-- A value is read back from its text, whatever the indent and wherever the text goes on. -/
theorem IsData.readsBack {depth : Nat} {v : Json} (h : IsData depth v) (indent : Option Int)
    (level : Nat) : ReadsBack depth level indent v := by
  induction h generalizing level with
  | null =>
    refine IsData.readsBack_of_succ .null ?_
    intro fuel rest hfuel hrest
    simp [writeAt, readValue, readScalar, dropLead]
  | bool b =>
    refine IsData.readsBack_of_succ (.bool b) ?_
    intro fuel rest hfuel hrest
    cases b <;> simp [writeAt, readValue, readScalar, dropLead]
  | int hlength =>
    rename_i depth n
    refine IsData.readsBack_of_succ (.int hlength) ?_
    intro fuel rest hfuel hrest
    rw [writeAt]
    exact readValue_integer hlength hrest fuel depth
  | text s =>
    refine IsData.readsBack_of_succ (.text s) ?_
    intro fuel rest hfuel hrest
    have hs := readText_writeText s fuel (by rw [writeAt] at hfuel; omega) rest
    simp [writeAt, writeText_eq, readValue, hs]
  | list hxs ih =>
    rename_i depth xs
    refine IsData.readsBack_of_succ (.list hxs) ?_
    intro fuel rest hfuel hrest
    -- the reader looks for the end of the list before it reads an item, which no item begins with
    cases xs with
    | nil => simp [writeAt, readValue, skipGap_cons (c := ']') rfl]
    | cons x xs =>
      simp only [writeAt, List.length_cons, List.length_append] at hfuel
      have hitems := readItems_write (fun y hy => ih y hy (level + 1)) hxs fuel (by omega)
        [] level rest
      have hgap := (hxs x (by simp)).skipGap_write indent (level + 1)
      obtain ⟨c, cs, hfirst, -, hend, -⟩ := (hxs x (by simp)).first indent (level + 1)
      rw [hfirst, List.cons_append] at hitems
      simp only [writeAt, List.cons_append, List.append_assoc]
      rw [readValue_list (by rw [skipGap_lineBreak, hgap, hfirst, List.cons_append]) hend]
      exact hitems
  | object hnames hms ih =>
    rename_i depth ms
    refine IsData.readsBack_of_succ (.object hnames hms) ?_
    intro fuel rest hfuel hrest
    cases ms with
    | nil => simp [writeAt, readValue, skipGap_cons (c := '\x7d') rfl]
    | cons m ms =>
      obtain ⟨k, v⟩ := m
      simp only [writeAt, List.length_cons, List.length_append] at hfuel
      have hmembers := readMembers_write (fun m hm => ih m hm (level + 1)) hms fuel
        (by omega) [] level rest
      rw [List.reverse_nil, List.nil_append, Members.ofList_of_nodup hnames, writeText_eq,
        List.cons_append] at hmembers
      simp only [writeAt, List.cons_append, List.append_assoc, writeText_eq]
      rw [readValue_object (by rw [skipGap_lineBreak, skipGap_cons (c := '\x22') rfl]) (by decide)]
      simpa using hmembers

/-- **Reading a text that was written gives the value back,** for every indent, with gaps after the
    text or none. -/
theorem IsData.read_write {v : Json} (h : IsData maxDepth v) (indent : Option Int)
    {gap : List Char} (hgap : ∀ c ∈ gap, isGap c = true) :
    read (write indent v ++ gap) = .ok v := by
  have hparts : Parts gap := by
    intro c hc
    have hblank := hgap c (List.mem_of_mem_head? hc)
    simp only [isGap, Bool.or_eq_true, decide_eq_true_eq] at hblank
    rcases hblank with ((rfl | rfl) | rfl) | rfl <;> decide
  have hend : skipGap gap = [] := by
    rw [← List.append_nil gap, skipGap_append hgap]
    rfl
  have hvalue := h.readsBack indent 0 (2 * (write indent v ++ gap).length + 1) gap
    (by rw [List.length_append, write]; omega) hparts
  obtain ⟨c, cs, hfirst, hc, -, hmark⟩ := h.first indent 0
  rw [write, hfirst, List.cons_append] at hvalue ⊢
  rw [read, readWhole]
  -- a byte order mark would be refused at the front, and no value begins with one
  · rw [skipGap_cons hc, hvalue]
    simp [hend]
  · intro rest hrest
    cases hrest
    exact hmark rfl

end MergeGate.Json
