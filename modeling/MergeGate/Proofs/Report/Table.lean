import MergeGate.Report.Table
import MergeGate.Proofs.Text.Words

/-
  MergeGate/Proofs/Report/Table.lean
  ==================================
  **A table can be read back.**  The cells of a line stand between its bars, with blanks around them
  (`cellsOf`).  When no cell has bars, line feeds or blanks at its ends, the lines of a table read cell
  by cell are its headers, a rule of hyphens and its rows (`cells_layout`).
-/

namespace MergeGate.Table

open MergeGate.Text

/-- The cells of a line: what stands between the bars, without the blanks around it. -/
def cellsOf (line : List Char) : List (List Char) := ((splitAt (· = '|') line).tail.dropLast).map trim

/-- A text that comes back from a table: without bars and line feeds, and trimmed. -/
structure IsPlain (c : List Char) : Prop where
  bars : '|' ∉ c
  feeds : '\n' ∉ c
  trimmed : trim c = c

theorem cellsOf_barred {ps : List (List Char)} (hne : ps ≠ []) (hps : ∀ p ∈ ps, '|' ∉ p) :
    cellsOf (barred ps) = ps.map trim := by
  have hbarred : barred ps = joinWith ['|'] ([] :: (ps ++ [[]])) := by
    rw [joinWith_cons (by simp), joinWith_concat hne, barred]
    simp
  have hsplit : splitAt (· = '|') (barred ps) = [] :: (ps ++ [[]]) := by
    rw [hbarred]
    apply splitAt_joinWith
    · intro p hp
      rw [List.mem_cons, List.mem_append, List.mem_singleton] at hp
      rcases hp with rfl | hp | rfl
      · exact List.not_mem_nil
      · exact hps p hp
      · exact List.not_mem_nil
    · simp
  rw [cellsOf, hsplit, List.tail_cons, List.dropLast_concat]

theorem trim_cellText {c : List Char} (w : Nat) (h : trim c = c) : trim (cellText w c) = c := by
  have hafter : Gap (List.replicate (w - c.length) ' ' ++ [' ']) := by
    intro d hd
    rw [List.mem_append, List.mem_replicate, List.mem_singleton] at hd
    rcases hd with ⟨-, rfl⟩ | rfl <;> rfl
  have hcell : cellText w c = [' '] ++ c ++ (List.replicate (w - c.length) ' ' ++ [' ']) := by
    simp [cellText]
  rw [hcell, trim_between (gap_singleton rfl) hafter, h]

theorem mem_cellText {w : Nat} {c : List Char} {d : Char} (h : d ∈ cellText w c) : d = ' ' ∨ d ∈ c := by
  simp only [cellText, List.cons_append, List.mem_cons, List.mem_append, List.mem_replicate, List.not_mem_nil,
    or_false] at h
  tauto

theorem cellsOf_rowLine {ws : List Nat} {r : Row} (hne : r ≠ []) (hlength : r.length ≤ ws.length)
    (hplain : ∀ c ∈ r, IsPlain c) : cellsOf (rowLine ws r) = r := by
  have hshown : ∀ p ∈ ws.zip r, IsPlain p.2 := fun p hp => hplain p.2 (List.of_mem_zip hp).2
  have hsecond : (ws.zip r).map Prod.snd = r := List.map_snd_zip hlength
  rw [rowLine, cellsOf_barred, List.map_map]
  · calc (ws.zip r).map (trim ∘ fun p => cellText p.1 p.2)
        = (ws.zip r).map Prod.snd := List.map_congr_left fun p hp => trim_cellText p.1 (hshown p hp).trimmed
      _ = r := hsecond
  · intro hnil
    rw [List.map_eq_nil_iff] at hnil
    rw [hnil] at hsecond
    exact hne hsecond.symm
  · intro cell hcell
    obtain ⟨p, hp, rfl⟩ := List.mem_map.mp hcell
    intro hbar
    rcases mem_cellText hbar with hblank | hbar
    · cases hblank
    · exact (hshown p hp).bars hbar

theorem cellsOf_ruleLine {ws : List Nat} (hne : ws ≠ []) :
    cellsOf (ruleLine ws) = ws.map fun w => List.replicate (w + 2) '-' := by
  rw [ruleLine, cellsOf_barred, List.map_map]
  · apply List.map_congr_left
    intro w hw
    have hsolid : Solid (List.replicate (w + 2) '-') := by
      intro c hc
      rw [List.eq_of_mem_replicate hc]
      rfl
    exact hsolid.trim_eq
  · simpa using hne
  · intro rule hrule
    obtain ⟨w, -, rfl⟩ := List.mem_map.mp hrule
    intro hbar
    exact absurd (List.eq_of_mem_replicate hbar) (by decide)

theorem not_mem_barred {d : Char} {ps : List (List Char)} (hbar : d ≠ '|') (h : ∀ p ∈ ps, d ∉ p) : d ∉ barred ps := by
  intro hd
  rw [barred, List.mem_append, List.mem_cons, List.mem_singleton] at hd
  rcases hd with (hd | hd) | hd
  · exact hbar hd
  · rcases mem_joinWith hd with hsep | ⟨p, hp, hd⟩
    · exact hbar (List.mem_singleton.mp hsep)
    · exact h p hp hd
  · exact hbar hd

theorem feed_not_mem_tableLines {headers : Row} {rows : List Row} (hheaders : ∀ c ∈ headers, IsPlain c)
    (hrows : ∀ r ∈ rows, ∀ c ∈ r, IsPlain c) : ∀ l ∈ tableLines headers rows, '\n' ∉ l := by
  have hrow : ∀ r : Row, (∀ c ∈ r, IsPlain c) → '\n' ∉ rowLine (widths headers rows) r := by
    intro r hr
    apply not_mem_barred (by decide)
    intro cell hcell
    obtain ⟨p, hp, rfl⟩ := List.mem_map.mp hcell
    intro hfeed
    rcases mem_cellText hfeed with hblank | hfeed
    · cases hblank
    · exact (hr p.2 (List.of_mem_zip hp).2).feeds hfeed
  have hrule : '\n' ∉ ruleLine (widths headers rows) := by
    apply not_mem_barred (by decide)
    intro rule hrule
    obtain ⟨w, -, rfl⟩ := List.mem_map.mp hrule
    intro hfeed
    exact absurd (List.eq_of_mem_replicate hfeed) (by decide)
  rw [tableLines, List.forall_mem_cons, List.forall_mem_cons, List.forall_mem_map]
  exact ⟨hrow headers hheaders, hrule, fun r hr => hrow r (hrows r hr)⟩

/-- The lines of a table, read cell by cell, are the headers, a rule of hyphens and the rows. -/
theorem cells_layout {headers : Row} {rows : List Row} (hne : headers ≠ [])
    (hrows : ∀ r ∈ rows, r ≠ [] ∧ r.length ≤ headers.length) (hheader : ∀ c ∈ headers, IsPlain c)
    (hcells : ∀ r ∈ rows, ∀ c ∈ r, IsPlain c) :
    (splitAt (· = '\n') (layout headers rows)).map cellsOf =
      headers :: ((widths headers rows).map fun w => List.replicate (w + 2) '-') :: rows := by
  have hlength := length_widths headers rows
  have hwidths : widths headers rows ≠ [] := by
    intro hnil
    rw [hnil] at hlength
    exact hne (List.length_eq_zero_iff.mp hlength.symm)
  rw [layout, splitAt_joinWith (feed_not_mem_tableLines hheader hcells) (by simp [tableLines]), tableLines,
    List.map_cons, List.map_cons, cellsOf_rowLine hne hlength.ge hheader, cellsOf_ruleLine hwidths, List.map_map]
  congr 2
  calc rows.map (cellsOf ∘ rowLine (widths headers rows))
      = rows.map id := by
        apply List.map_congr_left
        intro r hr
        exact cellsOf_rowLine (hrows r hr).1 ((hrows r hr).2.trans hlength.ge) (hcells r hr)
    _ = rows := List.map_id rows

end MergeGate.Table
