import MergeGate.Json.Reader
import MergeGate.Json.Writer

/-
  MergeGate/Proofs/Json/Depth.lean
  ================================
  **Reading what is nested too deep.**  The reader of JSON opens at most `maxDepth` lists and
  objects inside each other.  A text that begins with the openings of more objects is refused,
  whatever follows (`read_openings`).
-/

namespace MergeGate.Json

open MergeGate.Text

/-- A text of which every character stands for itself when it is written. -/
def IsPlainText (cs : List Char) : Prop := ∀ c ∈ cs, c ≠ '\x22' ∧ c ≠ '\\' ∧ 0x1f < c.toNat

theorem readText_plain {cs : List Char} (h : IsPlainText cs) {fuel : Nat}
    (hfuel : cs.length < fuel) (done rest : List Char) :
    readText fuel done (cs ++ '\x22' :: rest) = .ok (String.ofList (done.reverse ++ cs), rest) := by
  induction cs generalizing fuel done with
  | nil =>
    obtain ⟨fuel, rfl⟩ := Nat.exists_eq_add_of_lt hfuel
    simp [readText]
  | cons c cs ih =>
    obtain ⟨fuel, rfl⟩ : ∃ f, fuel = f + 1 := ⟨fuel - 1, by omega⟩
    obtain ⟨hquote, hslash, hcontrol⟩ := h c (by simp)
    have hlength : cs.length < fuel := by simpa using hfuel
    have hnot : ¬ c.toNat ≤ 0x1f := by omega
    have htail := ih (fun d hd => h d (by simp [hd])) hlength (c :: done)
    simp only [List.cons_append, readText, hquote, hslash, hnot, if_false, htail]
    simp

/-- What stands before the value of the first member of an object. -/
def opening (name : String) : List Char := '\x7b' :: '\x22' :: (name.toList ++ ['\x22', ':'])

/-- The openings of objects inside each other. -/
def openings (names : List String) : List Char := names.flatMap opening

theorem openings_cons (name : String) (names : List String) :
    openings (name :: names) = opening name ++ openings names := by
  simp [openings]

/-- A fault in the value of the first member is one of the object. -/
theorem readValue_opening {name : String} (hname : IsPlainText name.toList) {fuel depth : Nat}
    {cs : List Char} {e : Fault} (hfuel : name.toList.length < fuel) (hgap : skipGap cs = cs)
    (h : readValue fuel depth cs = .error e) :
    readValue (fuel + 2) (depth + 1) (opening name ++ cs) = .error e := by
  have hshape : opening name ++ cs = '\x7b' :: '\x22' :: (name.toList ++ '\x22' :: ':' :: cs) := by
    simp [opening]
  have hcolon : skipGap (':' :: cs) = ':' :: cs := rfl
  rw [hshape, readValue, if_neg (by decide), if_pos rfl]
  show readMembers (fuel + 1) depth [] _ = _
  simp only [readMembers, readText_plain hname hfuel, hcolon, hgap, h]

/-- More openings than levels that may be opened are a fault. -/
theorem readValue_openings {names : List String} (hnames : ∀ n ∈ names, IsPlainText n.toList)
    {fuel depth : Nat} (hdepth : depth < names.length)
    (hfuel : ∀ n ∈ names, n.toList.length + 2 * depth < fuel) (rest : List Char) :
    readValue fuel depth (openings names ++ rest) = .error (.tooDeep true) := by
  induction names generalizing fuel depth with
  | nil => cases hdepth
  | cons name names ih =>
    have hname := hfuel name (by simp)
    rw [openings_cons, List.append_assoc]
    cases depth with
    | zero =>
      obtain ⟨fuel, rfl⟩ : ∃ f, fuel = f + 1 := ⟨fuel - 1, by omega⟩
      rfl
    | succ depth =>
      obtain ⟨fuel, rfl⟩ : ∃ f, fuel = f + 2 := ⟨fuel - 2, by omega⟩
      have hdepth' : depth < names.length := by simpa using hdepth
      obtain ⟨next, names', rfl⟩ := List.exists_cons_of_length_pos (Nat.zero_lt_of_lt hdepth')
      apply readValue_opening (hnames name (by simp)) (by omega) rfl
      apply ih (fun n hn => hnames n (by simp [hn])) hdepth'
      intro n hn
      have := hfuel n (by simp [hn])
      omega

theorem length_openings (names : List String) : 4 * names.length ≤ (openings names).length := by
  induction names with
  | nil => exact Nat.le_refl _
  | cons name names ih =>
    rw [openings_cons, List.length_append]
    simp only [List.length_cons, opening, List.length_append]
    omega

/-- The openings of which a name is one are longer than the name. -/
theorem length_add_le_length_openings {name : String} {names : List String} (h : name ∈ names) :
    name.toList.length + 4 * names.length ≤ (openings names).length := by
  induction names with
  | nil => cases h
  | cons first names ih =>
    have hsize := length_openings names
    rw [openings_cons, List.length_append]
    simp only [List.length_cons, opening, List.length_append]
    rcases List.mem_cons.1 h with rfl | htail
    · omega
    · have hlater := ih htail
      omega

/-- A text with more openings than levels is refused, whatever follows. -/
theorem read_openings {names : List String} (hnames : ∀ n ∈ names, IsPlainText n.toList)
    (hdepth : maxDepth < names.length) (rest : List Char) :
    read (openings names ++ rest) = .error (.tooDeep true) := by
  have hfirst : ∃ cs, openings names ++ rest = '\x7b' :: cs := by
    obtain ⟨name, names', rfl⟩ := List.exists_cons_of_length_pos (Nat.zero_lt_of_lt hdepth)
    exact ⟨_, rfl⟩
  have hvalue : readValue (2 * (openings names ++ rest).length + 1) maxDepth
      (openings names ++ rest) = .error (.tooDeep true) := by
    apply readValue_openings hnames hdepth
    -- the openings alone leave enough fuel for each name
    intro n hn
    have hsize := length_add_le_length_openings hn
    rw [List.length_append]
    omega
  obtain ⟨cs, hcs⟩ := hfirst
  rw [hcs] at hvalue ⊢
  have hgap : skipGap ('\x7b' :: cs) = '\x7b' :: cs := rfl
  rw [read, readWhole]
  · rw [hgap, hvalue]
    rfl
  · simp

end MergeGate.Json
