import MergeGate.Proofs.Range.Conversions

/-
  MergeGate/Proofs/Version/Rows.lean
  ==================================
  **The rows of digits that a version is made of.**  A row stands in a text if it is whole: no digit
  is directly before or after it (`StandsIn`).  The search for a row finds the first that is short
  enough, and fails only if every row that stands in the text is too long (`findRow?_eq_some_iff`,
  `findRow?_eq_none_iff`).  With the rows that directly follow after points this says which version
  comes of a text that is no complete version (`ofRows?_eq_some_iff`).
-/

namespace MergeGate.Version

open MergeGate.Text

/-! ### Rows within a text -/

/-- A whole row of digits in a text, between what stands before and what stands after it; `inRow`
    holds when a digit stands directly before the text. -/
structure StandsIn (inRow : Bool) (cs front row rest : List Char) : Prop where
  whole : cs = front ++ (row ++ rest)
  isRow : IsRow row
  start : front = [] → inRow = false
  before : ∀ c ∈ front.getLast?, isDigit c = false
  after : ∀ c ∈ rest.head?, isDigit c = false

/-- The first of the whole rows that have at most `maxDigits` digits. -/
structure StandsFirst (inRow : Bool) (cs front row rest : List Char) : Prop
    extends StandsIn inRow cs front row rest where
  short : row.length ≤ maxDigits
  first : ∀ {front' row' rest'}, StandsIn inRow cs front' row' rest' → row'.length ≤ maxDigits →
    front.length ≤ front'.length

namespace StandsIn

variable {inRow : Bool} {c d : Char} {cs front row rest row' rest' : List Char}

theorem not_nil (h : StandsIn inRow [] front row rest) : False := by
  have hempty := List.append_eq_nil_iff.mp (List.append_eq_nil_iff.mp h.whole.symm).2
  exact h.isRow.ne_nil hempty.1

/-- Past the first character the rows are those that stand in the remaining text. -/
theorem cons_iff :
    StandsIn inRow (c :: cs) (d :: front) row rest ↔
      d = c ∧ StandsIn (isDigit c) cs front row rest := by
  constructor
  · rintro ⟨hwhole, hrow, -, hbefore, hafter⟩
    obtain ⟨rfl, rfl⟩ := List.cons.inj hwhole
    refine ⟨rfl, rfl, hrow, ?_, ?_, hafter⟩
    · rintro rfl
      exact hbefore c (by simp)
    · intro e he
      cases front with
      | nil => cases he
      | cons f front => exact hbefore e (by rwa [List.getLast?_cons_cons])
  · rintro ⟨rfl, rfl, hrow, hstart, hbefore, hafter⟩
    refine ⟨rfl, hrow, by simp, ?_, hafter⟩
    intro e he
    cases front with
    | nil =>
      obtain rfl : d = e := by simpa using he
      exact hstart rfl
    | cons f front =>
      rw [List.getLast?_cons_cons] at he
      exact hbefore e he

/-- A row at the front of a text is what the search cuts off there. -/
theorem span_eq (h : StandsIn inRow cs [] row rest) : cs.span isDigit = (row, rest) := by
  rw [h.whole, List.nil_append]
  exact span_append h.isRow.digits h.after

/-- A text that begins with a digit has a row at its front, if no digit stands before it. -/
theorem of_span (hc : isDigit c = true) :
    StandsIn false (c :: cs) [] ((c :: cs).span isDigit).1 ((c :: cs).span isDigit).2 := by
  obtain ⟨hwhole, hafter⟩ := @span_sound isDigit (c :: cs) _ _ rfl
  refine ⟨hwhole, isRow_of_span ?_, fun _ => rfl, by simp, hafter⟩
  rw [List.span_eq_takeWhile_dropWhile, List.takeWhile_cons_of_pos hc]
  exact List.cons_ne_nil _ _

/-- A row at the front begins with the first digit, and no digit stands before the text. -/
theorem first_of_nil (h : StandsIn inRow (c :: cs) [] row rest) :
    isDigit c = true ∧ inRow = false := by
  refine ⟨?_, h.start rfl⟩
  obtain ⟨d, ds, rfl⟩ := List.exists_cons_of_ne_nil h.isRow.ne_nil
  obtain ⟨rfl, -⟩ := List.cons.inj h.whole
  exact h.isRow.digits c (by simp)

/-- The front of a row tells which row it is. -/
theorem unique (h : StandsIn inRow cs front row rest) (h' : StandsIn inRow cs front row' rest') :
    row = row' ∧ rest = rest' := by
  have hsame : row ++ rest = row' ++ rest' :=
    List.append_cancel_left (h.whole.symm.trans h'.whole)
  have hspan := congrArg (List.span isDigit) hsame
  rw [span_append h.isRow.digits h.after, span_append h'.isRow.digits h'.after] at hspan
  exact Prod.mk.inj hspan

end StandsIn

theorem StandsFirst.unique {inRow : Bool} {cs front row rest front' row' rest' : List Char}
    (h : StandsFirst inRow cs front row rest) (h' : StandsFirst inRow cs front' row' rest') :
    row = row' ∧ rest = rest' := by
  have hlength : front.length = front'.length :=
    Nat.le_antisymm (h.first h'.toStandsIn h'.short) (h'.first h.toStandsIn h.short)
  obtain ⟨rfl, -⟩ := List.append_inj (h.whole.symm.trans h'.whole) hlength
  exact h.toStandsIn.unique h'.toStandsIn

/-! ### The search for a row -/

section Search

variable {inRow : Bool} {c : Char} {cs front row rest : List Char}

/-- If no short row is at the front, the first of the remaining text is the first. -/
theorem StandsFirst.cons (h : StandsFirst (isDigit c) cs front row rest)
    (hlong : ∀ {row rest}, StandsIn inRow (c :: cs) [] row rest → maxDigits < row.length) :
    StandsFirst inRow (c :: cs) (c :: front) row rest := by
  refine ⟨StandsIn.cons_iff.mpr ⟨rfl, h.toStandsIn⟩, h.short, ?_⟩
  intro front' row' rest' hother hshort
  cases front' with
  | nil => exact absurd (hlong hother) (Nat.not_lt.mpr hshort)
  | cons d front' =>
    obtain ⟨-, hlater⟩ := StandsIn.cons_iff.mp hother
    exact Nat.succ_le_succ (h.first hlater hshort)

/-- What a search has to give: the first short row, or nothing if there is none. -/
def FindsRow (inRow : Bool) (cs : List Char) : Option (List Char × List Char) → Prop
  | some (row, rest) => ∃ front, StandsFirst inRow cs front row rest
  | none => ∀ {front row rest}, StandsIn inRow cs front row rest → maxDigits < row.length

theorem FindsRow.cons {found : Option (List Char × List Char)} {digit : Bool}
    (h : FindsRow digit cs found) (hc : isDigit c = digit)
    (hlong : ∀ {row rest}, StandsIn inRow (c :: cs) [] row rest → maxDigits < row.length) :
    FindsRow inRow (c :: cs) found := by
  subst hc
  cases found with
  | some found =>
    obtain ⟨front, hfirst⟩ := h
    exact ⟨c :: front, hfirst.cons hlong⟩
  | none =>
    intro front row rest hrow
    cases front with
    | nil => exact hlong hrow
    | cons d front => exact h (StandsIn.cons_iff.mp hrow).2

/-- The induction follows the search, which passes one character at a time and looks at a row
    only where no digit stands before it. -/
theorem findsRow_findRow? (inRow : Bool) (cs : List Char) :
    FindsRow inRow cs (findRow? inRow cs) := by
  induction cs generalizing inRow with
  | nil =>
    intro front row rest hrow
    exact hrow.not_nil.elim
  | cons c cs ih =>
    unfold findRow?
    cases hc : isDigit c with
    | false =>
      rw [Bool.not_false, if_pos rfl]
      apply (ih false).cons hc
      intro row rest hrow
      exact absurd (hrow.first_of_nil.1.symm.trans hc) (by decide)
    | true =>
      rw [Bool.not_true, if_neg Bool.false_ne_true]
      cases inRow with
      | true =>
        rw [if_pos rfl]
        apply (ih true).cons hc
        intro row rest hrow
        exact absurd hrow.first_of_nil.2 (by decide)
      | false =>
        rw [if_neg Bool.false_ne_true]
        dsimp only
        by_cases hshort : ((c :: cs).span isDigit).1.length ≤ maxDigits
        · rw [if_pos hshort]
          exact ⟨[], StandsIn.of_span hc, hshort, fun _ _ => Nat.zero_le _⟩
        · -- the only row that stands at the front is too long
          rw [if_neg hshort]
          apply (ih true).cons hc
          intro row rest hrow
          rw [hrow.span_eq] at hshort
          exact Nat.not_le.mp hshort

theorem findRow?_eq_some_iff :
    findRow? inRow cs = some (row, rest) ↔ ∃ front, StandsFirst inRow cs front row rest := by
  have hfinds := findsRow_findRow? inRow cs
  constructor
  · intro h
    rw [h] at hfinds
    exact hfinds
  · rintro ⟨front, hfirst⟩
    cases hfound : findRow? inRow cs with
    | none =>
      rw [hfound] at hfinds
      exact absurd (hfinds hfirst.toStandsIn) (Nat.not_lt.mpr hfirst.short)
    | some found =>
      rw [hfound] at hfinds
      obtain ⟨front', hfirst'⟩ := hfinds
      obtain ⟨hrow, hrest⟩ := hfirst'.unique hfirst
      rw [← hrow, ← hrest]

theorem findRow?_eq_none_iff :
    findRow? inRow cs = none ↔
      ∀ {front row rest}, StandsIn inRow cs front row rest → maxDigits < row.length := by
  have hfinds := findsRow_findRow? inRow cs
  constructor
  · intro h
    rw [h] at hfinds
    exact hfinds
  · intro hlong
    cases hfound : findRow? inRow cs with
    | none => rfl
    | some found =>
      rw [hfound] at hfinds
      obtain ⟨front, hfirst⟩ := hfinds
      exact absurd (hlong hfirst.toStandsIn) (Nat.not_lt.mpr hfirst.short)

end Search

/-! ### The rows that follow -/

/-- A whole short row directly after a point. -/
structure FollowsPoint (cs row rest : List Char) : Prop where
  whole : cs = '.' :: (row ++ rest)
  isRow : IsRow row
  after : ∀ c ∈ rest.head?, isDigit c = false
  short : row.length ≤ maxDigits

theorem nextRow?_eq_some_iff {cs row rest : List Char} :
    nextRow? cs = some (row, rest) ↔ FollowsPoint cs row rest := by
  constructor
  · intro h
    have hrow := isRow_of_nextRow? h
    have hshort := nextRow?_length_le h
    unfold nextRow? at h
    split at h
    · rename_i tail
      dsimp only at h
      split at h
      · obtain ⟨rfl, hafter⟩ := span_sound (Option.some.inj h)
        exact ⟨rfl, hrow, hafter, hshort⟩
      · cases h
    · cases h
  · rintro ⟨rfl, hrow, hafter, hshort⟩
    have hone : 1 ≤ row.length := List.length_pos_iff.mpr hrow.ne_nil
    rw [nextRow?, span_append hrow.digits hafter]
    simp [hone, hshort]

theorem nextRow?_eq_none_iff {cs : List Char} :
    nextRow? cs = none ↔ ∀ row rest, ¬ FollowsPoint cs row rest := by
  simp only [Option.eq_none_iff_forall_ne_some, Prod.forall, ne_eq, nextRow?_eq_some_iff]

/-- The number that directly follows in a text, and what is after it: that of a whole short row
    after a point, or zero, with the text left as it is, if there is no such row. -/
inductive NextNumber (cs : List Char) : Nat → List Char → Prop where
  | row {row rest : List Char} (h : FollowsPoint cs row rest) :
      NextNumber cs (numeralValue row) rest
  | none (h : ∀ row rest, ¬ FollowsPoint cs row rest) : NextNumber cs 0 cs

/-! ### The version made of rows -/

/-- The version that a text makes: its first whole short row is the major number, the minor and the
    patch number directly follow, and there are no identifiers. -/
inductive MakesVersion (cs : List Char) : Version → Prop where
  | intro {front row rest rest' rest'' : List Char} {minor patch : Nat}
      (first : StandsFirst false cs front row rest) (second : NextNumber rest minor rest')
      (third : NextNumber rest' patch rest'') :
      MakesVersion cs ⟨numeralValue row, minor, patch, [], []⟩

theorem ofRows?_eq_some_iff {cs : List Char} {v : Version} :
    ofRows? cs = some v ↔ MakesVersion cs v := by
  constructor
  · intro h
    rw [ofRows?_eq] at h
    split at h
    · cases h
    · rename_i row rest hfound
      obtain ⟨front, hfirst⟩ := findRow?_eq_some_iff.mp hfound
      split at h
      · rename_i hminor
        cases h
        have hnone := nextRow?_eq_none_iff.mp hminor
        exact .intro hfirst (.none hnone) (.none hnone)
      · rename_i minor rest' hminor
        have hsecond : NextNumber rest (numeralValue minor) rest' :=
          .row (nextRow?_eq_some_iff.mp hminor)
        split at h
        · rename_i hpatch
          cases h
          exact .intro hfirst hsecond (.none (nextRow?_eq_none_iff.mp hpatch))
        · rename_i patch rest'' hpatch
          cases h
          exact .intro hfirst hsecond (.row (nextRow?_eq_some_iff.mp hpatch))
  · rintro ⟨hfirst, hsecond, hthird⟩
    rw [ofRows?_eq]
    rw [findRow?_eq_some_iff.mpr ⟨_, hfirst⟩]
    cases hsecond with
    | row hminor =>
      simp only [nextRow?_eq_some_iff.mpr hminor]
      cases hthird with
      | row hpatch => simp only [nextRow?_eq_some_iff.mpr hpatch]
      | none hnone => simp only [nextRow?_eq_none_iff.mpr hnone]
    | none hnone =>
      -- the patch number is looked for where the minor number was missing
      simp only [nextRow?_eq_none_iff.mpr hnone]
      cases hthird with
      | row hpatch => exact absurd hpatch (hnone _ _)
      | none _ => rfl

theorem ofRows?_eq_none_iff {cs : List Char} :
    ofRows? cs = none ↔
      ∀ {front row rest}, StandsIn false cs front row rest → maxDigits < row.length := by
  rw [← findRow?_eq_none_iff]
  rw [ofRows?_eq]
  cases findRow? false cs with
  | none => simp
  | some found =>
    simp only [reduceCtorEq, iff_false]
    split
    · simp
    · split <;> simp

end MergeGate.Version
