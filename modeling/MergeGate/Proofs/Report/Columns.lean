import Mathlib.Algebra.GroupWithZero.Nat
import Mathlib.Data.List.Forall2
import Mathlib.Order.Bounds.Basic
import MergeGate.Report.Table
import MergeGate.Proofs.Text.Words

/-
  MergeGate/Proofs/Report/Columns.lean
  ====================================
  **A table stands in columns.**  The widths of a table are a running maximum over its rows, and in the
  end each is the length of the longest cell of its column (`areWidths_widths`).  They alone say where the
  bars of a line stand (`barPlace`), whatever fills the columns between them (`drop_barred`); so the
  headers, the rule and every row with a cell for each header have their bars at the same places.

  `render_aligned` states this of a rendered table, with what stands between the bars, and that only a
  row with too many cells keeps a table from being rendered.
-/

namespace MergeGate.Table

open MergeGate.Text

/-! ### Widths -/

/-- The lengths of the cells that rows have in a column. -/
def lengthsIn (rows : List Row) (i : Nat) : Set Nat := {n | ∃ r ∈ rows, ∃ c, r[i]? = some c ∧ c.length = n}

/-- Each column is as wide as the longest cell that the rows have in it. -/
def AreWidths (rows : List Row) (ws : List Nat) : Prop := ∀ i w, ws[i]? = some w → IsGreatest (lengthsIn rows i) w

variable {ws : List Nat} {rows seen : List Row} {r : Row} {i : Nat}

theorem lengthsIn_append (rows more : List Row) (i : Nat) :
    lengthsIn (rows ++ more) i = lengthsIn rows i ∪ lengthsIn more i := by
  ext n
  simp only [lengthsIn, List.mem_append, or_and_right, exists_or, Set.mem_union, Set.mem_ofPred_eq]

theorem lengthsIn_of_none (h : r[i]? = none) : lengthsIn [r] i = ∅ := by
  simp [lengthsIn, h]

theorem lengthsIn_of_some {c : List Char} (h : r[i]? = some c) : lengthsIn [r] i = {c.length} := by
  ext n
  simp [lengthsIn, h, eq_comm]

theorem getElem?_widen (ws : List Nat) (r : Row) (i : Nat) :
    (widen ws r)[i]? = ws[i]?.map fun w => r[i]?.elim w fun c => max w c.length := by
  induction ws generalizing r i with
  | nil => simp [widen]
  | cons w ws ih =>
    cases r with
    | nil => simp [widen]
    | cons c cs =>
      cases i with
      | zero => simp [widen]
      | succ i => simpa [widen] using ih cs i

/-- One more row: a column without a cell in it keeps its width. -/
theorem AreWidths.widen (h : AreWidths rows ws) (r : Row) : AreWidths (rows ++ [r]) (widen ws r) := by
  intro i v hv
  rw [getElem?_widen, Option.map_eq_some_iff] at hv
  obtain ⟨w, hw, rfl⟩ := hv
  rw [lengthsIn_append]
  cases hc : r[i]? with
  | none =>
    rw [lengthsIn_of_none hc, Set.union_empty]
    exact h i w hw
  | some c =>
    rw [lengthsIn_of_some hc]
    exact (h i w hw).union isGreatest_singleton

theorem AreWidths.foldl (h : AreWidths seen ws) (rows : List Row) :
    AreWidths (seen ++ rows) (rows.foldl Table.widen ws) := by
  induction rows generalizing seen ws with
  | nil => rwa [List.append_nil]
  | cons r rs ih =>
    -- the row moves to those that are seen
    rw [List.append_cons]
    exact ih (h.widen r)

theorem areWidths_widths (headers : Row) (rows : List Row) : AreWidths (headers :: rows) (widths headers rows) := by
  have hheaders : AreWidths [headers] (headers.map List.length) := by
    intro i w hw
    rw [List.getElem?_map, Option.map_eq_some_iff] at hw
    obtain ⟨c, hc, rfl⟩ := hw
    rw [lengthsIn_of_some hc]
    exact isGreatest_singleton
  exact hheaders.foldl rows

theorem AreWidths.fits (h : AreWidths rows ws) (hr : r ∈ rows) : ∀ p ∈ ws.zip r, p.2.length ≤ p.1 := by
  intro p hp
  obtain ⟨i, hi⟩ := List.mem_iff_getElem?.mp hp
  obtain ⟨hw, hc⟩ := List.getElem?_zip_eq_some.mp hi
  exact (h i p.1 hw).2 ⟨r, hr, p.2, hc, rfl⟩

/-! ### Bars -/

/-- The place of the bar before a column; the bar that closes the line stands where one more column
    would begin. -/
def barPlace (ws : List Nat) (i : Nat) : Nat := ((ws.take i).map fun w => w + 3).sum

/-- What a line has in a column, which is between the bar before it and the next one. -/
def inColumn (ws : List Nat) (i : Nat) (l : List Char) : List Char :=
  l.extract (barPlace ws i + 1) (barPlace ws (i + 1))

/-- A line of the length that the columns need, with a bar before each of them and at its end. -/
structure IsRuled (ws : List Nat) (l : List Char) : Prop where
  length : l.length = 1 + (ws.map fun w => w + 3).sum
  bars : ∀ i ≤ ws.length, l[barPlace ws i]? = some '|'

/-- A line with the cells of a row in its columns: each cell whole, behind one blank and before others. -/
structure Shows (ws : List Nat) (r : Row) (l : List Char) : Prop extends IsRuled ws l where
  cells : ∀ i c, r[i]? = some c → ∃ k, inColumn ws i l = ' ' :: c ++ List.replicate (k + 1) ' '

/-- A line with hyphens in its columns. -/
structure IsRule (ws : List Nat) (l : List Char) : Prop extends IsRuled ws l where
  hyphens : ∀ i w, ws[i]? = some w → inColumn ws i l = List.replicate (w + 2) '-'

/-- Pieces with a bar before each. -/
def fenced (ps : List (List Char)) : List Char := ps.flatMap fun p => '|' :: p

/-- Pieces that take up the columns: each is as long as its column is wide, with a blank at either side. -/
def Fill (ws : List Nat) (ps : List (List Char)) : Prop := ps.map List.length = ws.map fun w => w + 2

variable {ps : List (List Char)} {p : List Char}

theorem fenced_cons (p : List Char) (ps : List (List Char)) : fenced (p :: ps) = '|' :: p ++ fenced ps :=
  List.flatMap_cons

theorem fenced_append (ps qs : List (List Char)) : fenced (ps ++ qs) = fenced ps ++ fenced qs :=
  List.flatMap_append

theorem barred_eq_fenced (hne : ps ≠ []) : barred ps = fenced ps ++ ['|'] := by
  have hjoin : ['|'] ++ joinWith ['|'] ps = fenced ps := append_joinWith hne
  rw [← hjoin]
  rfl

theorem Fill.length_fenced (h : Fill ws ps) : (fenced ps).length = (ws.map fun w => w + 3).sum :=
  calc (fenced ps).length = (ps.map fun p => p.length + 1).sum := List.length_flatMap
    _ = ((ps.map List.length).map fun n => n + 1).sum := by rw [List.map_map]; rfl
    _ = ((ws.map fun w => w + 2).map fun n => n + 1).sum := by rw [h]
    _ = (ws.map fun w => w + 3).sum := by rw [List.map_map]; rfl

theorem Fill.length_take (h : Fill ws ps) (i : Nat) : (fenced (ps.take i)).length = barPlace ws i := by
  have htake : Fill (ws.take i) (ps.take i) := by
    rw [Fill, List.map_take, List.map_take, h]
  exact htake.length_fenced

theorem Fill.ne_nil (h : Fill ws ps) (hne : ws ≠ []) : ps ≠ [] := by
  rintro rfl
  exact hne (List.map_eq_nil_iff.mp h.symm)

/-- From the bar before a column on, a line has the pieces from that column on. -/
theorem drop_barred (hne : ws ≠ []) (h : Fill ws ps) (i : Nat) :
    (barred ps).drop (barPlace ws i) = fenced (ps.drop i) ++ ['|'] := by
  have hparts : barred ps = fenced (ps.take i) ++ (fenced (ps.drop i) ++ ['|']) := by
    rw [← List.append_assoc, ← fenced_append, List.take_append_drop, barred_eq_fenced (h.ne_nil hne)]
  rw [hparts, List.drop_left' (h.length_take i)]

theorem isRuled_barred (hne : ws ≠ []) (h : Fill ws ps) : IsRuled ws (barred ps) where
  length := by
    rw [barred_eq_fenced (h.ne_nil hne), List.length_append, h.length_fenced, Nat.add_comm]
    rfl
  bars := by
    intro i _
    rw [← List.head?_drop, drop_barred hne h]
    cases ps.drop i <;> rfl

theorem inColumn_barred (hne : ws ≠ []) (h : Fill ws ps) (hp : ps[i]? = some p) : inColumn ws i (barred ps) = p := by
  obtain ⟨hi, rfl⟩ := List.getElem?_eq_some_iff.mp hp
  have hdrop : (barred ps).drop (barPlace ws i + 1) = ps[i] ++ (fenced (ps.drop (i + 1)) ++ ['|']) := by
    rw [← List.drop_drop, drop_barred hne h, List.drop_eq_getElem_cons hi, fenced_cons,
      List.cons_append, List.cons_append, List.drop_one, List.tail_cons, List.append_assoc]
  have hnext : barPlace ws (i + 1) = barPlace ws i + (ps[i].length + 1) := by
    rw [← h.length_take, ← h.length_take, ← List.take_append_getElem hi, fenced_append, List.length_append]
    simp [fenced]
  rw [inColumn, List.extract_eq_take_drop, hdrop, List.take_left' (by omega)]

/-! ### Lines -/

theorem isRule_ruleLine (hne : ws ≠ []) : IsRule ws (ruleLine ws) where
  toIsRuled := isRuled_barred hne (by simp [Fill])
  hyphens := by
    intro i w hw
    apply inColumn_barred hne (by simp [Fill])
    rw [List.getElem?_map, hw]
    rfl

/-- The cells of a whole row, each padded, take up the columns. -/
theorem fill_cells (hlength : r.length = ws.length) (hfits : ∀ p ∈ ws.zip r, p.2.length ≤ p.1) :
    Fill ws ((ws.zip r).map fun p => cellText p.1 p.2) := by
  rw [Fill, List.map_map]
  calc (ws.zip r).map (List.length ∘ fun p => cellText p.1 p.2)
      = (ws.zip r).map ((fun w => w + 2) ∘ Prod.fst) := List.map_congr_left fun p hp => length_cellText (hfits p hp)
    _ = ws.map fun w => w + 2 := by rw [← List.map_map, List.map_fst_zip hlength.ge]

theorem cellText_eq (w : Nat) (c : List Char) : cellText w c = ' ' :: c ++ List.replicate (w - c.length + 1) ' ' := by
  rw [cellText, List.replicate_succ', List.append_assoc]

theorem shows_rowLine (hne : ws ≠ []) (hlength : r.length = ws.length) (hfits : ∀ p ∈ ws.zip r, p.2.length ≤ p.1) :
    Shows ws r (rowLine ws r) where
  toIsRuled := isRuled_barred hne (fill_cells hlength hfits)
  cells := by
    intro i c hc
    obtain ⟨hi, -⟩ := List.getElem?_eq_some_iff.mp hc
    have hw : ws[i]? = some ws[i] := List.getElem?_eq_getElem (hlength ▸ hi)
    have hcell : (ws.zip r)[i]? = some (ws[i], c) := List.getElem?_zip_eq_some.mpr ⟨hw, hc⟩
    refine ⟨ws[i] - c.length, ?_⟩
    rw [← cellText_eq]
    apply inColumn_barred hne (fill_cells hlength hfits)
    rw [List.getElem?_map, hcell]
    rfl

/-! ### Tables -/

theorem render_eq_error_iff (headers : Row) (rows : List Row) :
    render headers rows = .error ⟨⟩ ↔ ∃ r ∈ rows, headers.length < r.length := by
  rw [render_eq]
  by_cases h : ∀ r ∈ rows, r.length ≤ headers.length
  · rw [if_pos h]
    refine iff_of_false nofun ?_
    rintro ⟨r, hr, hlong⟩
    exact absurd (h r hr) (Nat.not_le.mpr hlong)
  · rw [if_neg h]
    push Not at h
    exact iff_of_true rfl h

/-- **A table is aligned.**  It is rendered unless a row has more cells than there are headers.  When
    there are headers and each row has as many cells, every line is as long as the columns need and has
    its bars at the same places, where a column is as wide as the longest cell in it; and in each column
    of the headers and of a row stand a blank, the whole cell and blanks. -/
theorem render_aligned (headers : Row) (rows : List Row) :
    (render headers rows = .error ⟨⟩ ↔ ∃ r ∈ rows, headers.length < r.length) ∧
      (headers ≠ [] → (∀ r ∈ rows, r.length = headers.length) →
        ∃ ws head rule body, render headers rows = .ok (joinWith ['\n'] (head :: rule :: body)) ∧
          ws.length = headers.length ∧ AreWidths (headers :: rows) ws ∧
            Shows ws headers head ∧ IsRule ws rule ∧ List.Forall₂ (Shows ws) rows body) := by
  refine ⟨render_eq_error_iff headers rows, ?_⟩
  intro hheaders hrows
  have hcount : (widths headers rows).length = headers.length := length_widths headers rows
  have hwidths : AreWidths (headers :: rows) (widths headers rows) := areWidths_widths headers rows
  have hne : widths headers rows ≠ [] := by
    intro hnil
    rw [hnil] at hcount
    exact hheaders (List.length_eq_zero_iff.mp hcount.symm)
  have hshows : ∀ r ∈ headers :: rows, Shows (widths headers rows) r (rowLine (widths headers rows) r) := by
    intro r hr
    apply shows_rowLine hne _ (hwidths.fits hr)
    rcases List.mem_cons.mp hr with rfl | hr
    · exact hcount.symm
    · rw [hcount, hrows r hr]
  refine ⟨widths headers rows, rowLine (widths headers rows) headers, ruleLine (widths headers rows),
    rows.map (rowLine (widths headers rows)), ?_, hcount, hwidths, ?_, isRule_ruleLine hne, ?_⟩
  · rw [render_eq, if_pos fun r hr => (hrows r hr).le]
    rfl
  · exact hshows headers List.mem_cons_self
  · rw [List.forall₂_map_right_iff, List.forall₂_same]
    exact fun r hr => hshows r (List.mem_cons_of_mem headers hr)

def oddHeaders : Row := ["Name".toList, []]

/-- Rows with a bar, a line feed, blanks and nothing in their cells. -/
def oddRows : List Row := [["a|b".toList, "1\n2".toList], [[], "  ".toList]]

theorem render_aligned_oddRows : oddHeaders ≠ [] ∧ (∀ r ∈ oddRows, r.length = oddHeaders.length) ∧
    render oddHeaders oddRows = .ok "| Name |     |\n|------|-----|\n| a|b  | 1\n2 |\n|      |     |".toList ∧
      render oddHeaders (["a".toList, "b".toList, []] :: oddRows) = .error ⟨⟩ ∧
        ∃ ws head rule body, render oddHeaders oddRows = .ok (joinWith ['\n'] (head :: rule :: body)) ∧
          ws.length = oddHeaders.length ∧ AreWidths (oddHeaders :: oddRows) ws ∧
            Shows ws oddHeaders head ∧ IsRule ws rule ∧ List.Forall₂ (Shows ws) oddRows body := by
  have hheaders : oddHeaders ≠ [] := by decide
  have hrows : ∀ r ∈ oddRows, r.length = oddHeaders.length := by decide
  refine ⟨hheaders, hrows, rfl, ?_, (render_aligned oddHeaders oddRows).2 hheaders hrows⟩
  rw [(render_aligned oddHeaders _).1]
  exact ⟨_, List.mem_cons_self, by decide⟩

end MergeGate.Table
