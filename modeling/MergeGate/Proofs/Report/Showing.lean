import MergeGate.Report.Comment
import MergeGate.Report.Text
import MergeGate.Proofs.Evaluation.Contexts
import MergeGate.Proofs.Json.Nesting
import MergeGate.Proofs.Report.Codec

/-
  MergeGate/Proofs/Report/Showing.lean
  ====================================
  **Every report on an evaluation can be shown.**  Showing a report may fail in three ways: its status is
  no word that can be shown, a row of its table has too many cells, or a value that it tells of has no
  text.  The forms of a report are given here with these failures (`checkedText`, `checkedComment`,
  `checkedDocument`).

  A report on an evaluation meets none of them, because its status is the label of one of the three
  (`status?_ofVerdict`), and the contexts of its violations are data of few levels (`isData_ofVerdict`).
-/

namespace MergeGate.Report

open MergeGate.Text

/-! ### Forms that may fail -/

/-- Why a report cannot be shown. -/
inductive ShowFault where
  | status (e : UnknownStatus)
  | cells (e : Table.TooManyCells)
  | value (t : Datum.TextFault)

/-- The values concerned that a text tells of, in order. -/
def toldValues (verbosity : Verbosity) (r : Report) : List Json :=
  match verbosity with
  | .verbose => r.violations.flatMap fun v => (inNameOrder v.context).map Prod.snd
  | _ => []

def checkedText (verbosity : Verbosity) (r : Report) : Except ShowFault String := do
  let text ← (r.toText verbosity).mapError .status
  match (r.toldValues verbosity).findSome? fun x => (Datum.ofJson x).fault? with
  | some t => .error (.value t)
  | none => .ok text

def countHeaders : Table.Row := ["Severity".toList, "Count".toList]

def countRows (r : Report) : List Table.Row := r.counts.map fun p => [p.1.title.toList, (toString p.2).toList]

def checkedComment (limit : Int) (r : Report) : Except ShowFault String := do
  let text ← (r.toComment limit).mapError .status
  let _table ← (Table.render countHeaders r.countRows).mapError .cells
  return text

/-- The document, for which all values need a text.  How deep they may be nested is the bound of
    the reader; a report on an evaluation has a few levels only, less than any such bound. -/
def checkedDocument (indent : Option Int) (r : Report) : Except ShowFault String :=
  match (Datum.ofJson r.toJson).fault? with
  | some t => .error (.value t)
  | none => .ok (r.toDocument indent)

/-! ### Forms that do not fail -/

variable {r : Report} {status : Status}

theorem render_counts (r : Report) : Table.render countHeaders r.countRows = .ok r.countTable := by
  have hcells : ∀ row ∈ r.countRows, row.length ≤ countHeaders.length := by
    rw [countRows, List.forall_mem_map]
    exact fun p _ => Nat.le_refl 2
  rw [Table.render_eq, if_pos hcells]
  rfl

theorem IsData.fault?_told (h : r.IsData) (verbosity : Verbosity) :
    ((r.toldValues verbosity).findSome? fun x => (Datum.ofJson x).fault?) = none := by
  rw [List.findSome?_eq_none_iff]
  intro x hx
  cases verbosity with
  | quiet => cases hx
  | normal => cases hx
  | verbose =>
    obtain ⟨v, hv, hx⟩ := List.mem_flatMap.mp hx
    obtain ⟨m, hm, rfl⟩ := List.mem_map.mp hx
    have hmember : m ∈ v.context := (List.mergeSort_perm _ _).mem_iff.mp hm
    cases h.contexts v hv with
    | object hnames hvalues =>
      have hfits : Json.Fits Json.maxDepth m.2 := (hvalues m hmember).fits.mono (by decide)
      exact hfits.ofJson.fault?

theorem IsData.checkedText (h : r.IsData) (hstatus : r.status? = .ok status) (verbosity : Verbosity) :
    r.checkedText verbosity = .ok (String.ofList (r.textWith status verbosity)) := by
  rw [Report.checkedText, toText, hstatus, h.fault?_told]
  rfl

theorem checkedComment_eq (hstatus : r.status? = .ok status) (limit : Int) :
    r.checkedComment limit = .ok (String.ofList (r.commentWith status limit)) := by
  rw [checkedComment, toComment, hstatus, render_counts]
  rfl

theorem IsData.checkedDocument (h : r.IsData) (indent : Option Int) :
    r.checkedDocument indent = .ok (r.toDocument indent) := by
  have hfault : (Datum.ofJson r.toJson).fault? = none := h.toJson.fits.ofJson.fault?
  rw [Report.checkedDocument, hfault]

/-! ### Reports on evaluations -/

theorem status?_ofVerdict (tool version : String) (verdict : Verdict) (violations : List Violation)
    (configPath : Option String) (metadata : Json.Members) :
    (ofVerdict tool version verdict violations configPath metadata).status? = .ok verdict.status := by
  rw [status?, ofVerdict, Status.ofLabel?_label]

theorem isData_ofVerdict {absence : Severity} {policy : Option Policy} {facts : Facts} {e : Evaluation}
    (h : Evaluation.evaluate absence policy facts = .ok e) (tool version : String) (configPath : Option String)
    {metadata : Json.Members} (hmetadata : Json.IsData (Json.maxDepth - 1) (.object metadata)) :
    (ofVerdict tool version e.verdict e.violations configPath metadata).IsData where
  contexts := Evaluation.plainContext_evaluate h (Json.maxDepth - 6)
  metadata := hmetadata

end MergeGate.Report
