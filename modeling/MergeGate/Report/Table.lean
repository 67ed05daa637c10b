import MergeGate.Text.Blank

/-
  MergeGate/Report/Table.lean
  ===========================
  **Aligned tables.**  A table is written with a bar around each cell; each cell has a blank at
  either side and is padded to the width of its column, which is that of the longest cell in it.
  A rule of hyphens follows the headers.  A row may have fewer cells than there are headers; one
  with more has no place for them.
-/

namespace MergeGate.Table

open MergeGate.Text

abbrev Row := List (List Char)

/-- The widths of the columns so far, made wide enough for a row. -/
def widen : List Nat → Row → List Nat
  | [], _ => []
  | ws, [] => ws
  | w :: ws, c :: cs => max w c.length :: widen ws cs

def widths (headers : Row) (rows : List Row) : List Nat := rows.foldl widen (headers.map List.length)

def cellText (w : Nat) (c : List Char) : List Char := ' ' :: c ++ List.replicate (w - c.length) ' ' ++ [' ']

/-- Pieces with bars around them. -/
def barred (ps : List (List Char)) : List Char := '|' :: joinWith ['|'] ps ++ ['|']

def rowLine (ws : List Nat) (r : Row) : List Char := barred ((ws.zip r).map fun p => cellText p.1 p.2)

/-- The line between the headers and the rows. -/
def ruleLine (ws : List Nat) : List Char := barred (ws.map fun w => List.replicate (w + 2) '-')

def tableLines (headers : Row) (rows : List Row) : List (List Char) :=
  let ws := widths headers rows
  rowLine ws headers :: ruleLine ws :: rows.map (rowLine ws)

/-- A row has more cells than there are headers. -/
structure TooManyCells where
  deriving DecidableEq, Repr

/-- The sentence for a row with too many cells. -/
def TooManyCells.message (_ : TooManyCells) : String := "list index out of range"

/-- The cells of a row as they stand in the columns, if there is a column for each of them. -/
def place : List Nat → Row → Except TooManyCells (List (List Char))
  | _, [] => .ok []
  | [], _ :: _ => .error ⟨⟩
  | w :: ws, c :: cs => do return cellText w c :: (← place ws cs)

def writeRow (ws : List Nat) (r : Row) : Except TooManyCells (List Char) := do return barred (← place ws r)

def render (headers : Row) (rows : List Row) : Except TooManyCells (List Char) := do
  let ws := widths headers rows
  let head ← writeRow ws headers
  let body ← rows.mapM (writeRow ws)
  return joinWith ['\n'] (head :: ruleLine ws :: body)

/-- The text of a table whose rows have no cell too many. -/
def layout (headers : Row) (rows : List Row) : List Char := joinWith ['\n'] (tableLines headers rows)

theorem length_widen (ws : List Nat) (r : Row) : (widen ws r).length = ws.length := by
  induction ws generalizing r with
  | nil => simp [widen]
  | cons w ws ih =>
    cases r with
    | nil => simp [widen]
    | cons c cs => simp [widen, ih]

theorem length_widths (headers : Row) (rows : List Row) : (widths headers rows).length = headers.length := by
  unfold widths
  generalize hw : headers.map List.length = ws
  have hl : headers.length = ws.length := by simp [← hw]
  rw [hl]
  clear hl hw
  induction rows generalizing ws with
  | nil => rfl
  | cons r rs ih => simp only [List.foldl_cons, ih, length_widen]

theorem place_eq (ws : List Nat) (r : Row) :
    place ws r = if r.length ≤ ws.length then .ok ((ws.zip r).map fun p => cellText p.1 p.2) else .error ⟨⟩ := by
  induction ws generalizing r with
  | nil => cases r <;> rfl
  | cons w ws ih =>
    cases r with
    | nil => rfl
    | cons c cs =>
      rw [place, ih]
      by_cases h : cs.length ≤ ws.length
      · rw [if_pos h, if_pos (by simpa using h)]
        rfl
      · rw [if_neg h, if_neg (by simpa using h)]
        rfl

theorem writeRow_eq (ws : List Nat) (r : Row) :
    writeRow ws r = if r.length ≤ ws.length then .ok (rowLine ws r) else .error ⟨⟩ := by
  rw [writeRow, place_eq]
  split <;> rfl

theorem mapM_writeRow (ws : List Nat) (rows : List Row) :
    rows.mapM (writeRow ws) =
      if ∀ r ∈ rows, r.length ≤ ws.length then .ok (rows.map (rowLine ws)) else .error ⟨⟩ := by
  induction rows with
  | nil => simp [pure, Except.pure]
  | cons r rs ih =>
    rw [List.mapM_cons, ih, writeRow_eq]
    simp only [List.forall_mem_cons]
    by_cases hr : r.length ≤ ws.length
    · by_cases hrs : ∀ r ∈ rs, r.length ≤ ws.length
      · rw [if_pos hr, if_pos hrs, if_pos ⟨hr, hrs⟩]
        rfl
      · rw [if_pos hr, if_neg hrs, if_neg fun h => hrs h.2]
        rfl
    · have hnot : ¬(r.length ≤ ws.length ∧ ∀ r ∈ rs, r.length ≤ ws.length) := fun h => hr h.1
      rw [if_neg hr, if_neg hnot]
      rfl

/-- A table is written as it is laid out, unless a row has too many cells. -/
theorem render_eq (headers : Row) (rows : List Row) :
    render headers rows =
      if ∀ r ∈ rows, r.length ≤ headers.length then .ok (layout headers rows) else .error ⟨⟩ := by
  have hlength := length_widths headers rows
  rw [render, mapM_writeRow, writeRow_eq, hlength, if_pos (Nat.le_refl headers.length)]
  split <;> rfl

theorem length_cellText {w : Nat} {c : List Char} (h : c.length ≤ w) : (cellText w c).length = w + 2 := by
  simp [cellText]
  omega

end MergeGate.Table
