import MergeGate.Report.Document
import MergeGate.Proofs.Json.MemberOrder

/-
  MergeGate/Proofs/Report/Codec.lean
  ==================================
  **A report survives its JSON.**  Carried to JSON and back a report is itself.  The document shows
  the members of objects in the order of their names, so a report that is read from its document is
  the one that was written with its mappings in that order (`Report.inOrder`), and says the same
  (`Report.ofJson_read_toDocument`).

  Reading looks members up by name, so it depends on the lookups only (`Report.ofJson_congr`), and
  those do not change when members are sorted.
-/

namespace MergeGate

open MergeGate.Json

/-! ### What is compared and what a document keeps -/

/-- Two violations that differ at most in the order of members inside their contexts. -/
structure Violation.Same (v w : Violation) : Prop where
  rule : v.rule = w.rule
  severity : v.severity = w.severity
  message : v.message = w.message
  remediation : v.remediation = w.remediation
  context : Json.Same (.object v.context) (.object w.context)

/-- Two reports that differ at most in the order of members inside contexts and metadata. -/
structure Report.Same (r s : Report) : Prop where
  tool : r.tool = s.tool
  version : r.version = s.version
  status : r.status = s.status
  failing : r.failing = s.failing
  threshold : r.threshold = s.threshold
  configPath : r.configPath = s.configPath
  violations : List.Forall₂ Violation.Same r.violations s.violations
  metadata : Json.Same (.object r.metadata) (.object s.metadata)

/-- The data of a report that a document keeps.  A context stands inside the report, the list of
    violations and the violation, the metadata inside the report.  The bound is the reader's; a writer that
    opens two calls for a level gets half as deep. -/
structure Report.IsData (r : Report) : Prop where
  contexts : ∀ v ∈ r.violations, Json.IsData (maxDepth - 3) (.object v.context)
  metadata : Json.IsData (maxDepth - 1) (.object r.metadata)

def Violation.inOrder (v : Violation) : Violation := { v with context := v.context.inOrder }

def Report.inOrder (r : Report) : Report :=
  { r with violations := r.violations.map Violation.inOrder, metadata := r.metadata.inOrder }

/-! ### Reading what is carried to JSON -/

theorem Level.ofOption_label (s : Severity) : Level.ofOption (some (.text s.label)) = s := by
  cases s <;> decide

theorem Report.optionalTextOf_optionalText (s : Option String) :
    Report.optionalTextOf (some (Violation.optionalText s)) = s := by
  cases s <;> rfl

theorem Violation.sorted_optionalText (s : Option String) : (optionalText s).sorted = optionalText s := by
  cases s <;> rfl

theorem Violation.ofJson_toJson (v : Violation) : Violation.ofJson v.toJson = .ok v := by
  simp [toJson, ofJson, Report.membersOf, Report.required, Members.get?, Report.textOf, Report.levelOf,
    Level.ofOption_label, Report.optionalTextOf_optionalText]

theorem Violation.ofItems_map {f : Violation → Json} {g : Violation → Violation}
    (h : ∀ v, Violation.ofJson (f v) = .ok (g v)) (vs : List Violation) :
    Violation.ofItems (vs.map f) = .ok (vs.map g) := by
  induction vs with
  | nil => rfl
  | cons v vs ih => rw [List.map_cons, ofItems, h, ih, List.map_cons]

theorem Report.ofJson_toJson (r : Report) : Report.ofJson r.toJson = .ok r := by
  have hviolations := Violation.ofItems_map (g := id) Violation.ofJson_toJson r.violations
  simp [toJson, ofJson, membersOf, required, Members.get?, textOf, levelOf, itemsOf, hviolations,
    Json.isTruthy, Level.ofOption_label, optionalTextOf_optionalText]

/-! ### Reading what is sorted -/

theorem Violation.ofJson_sorted (v : Violation) :
    Violation.ofJson v.toJson.sorted = .ok v.inOrder := by
  -- every lookup in the sorted object is a lookup in the one as it was carried over, sorted
  rw [toJson, sorted_object]
  simp [ofJson, Report.membersOf, Report.required, Members.get?_inOrder, Members.get?,
    sorted_optionalText, Report.textOf, Report.levelOf, Level.ofOption_label,
    Report.optionalTextOf_optionalText, inOrder]

theorem Report.ofJson_sorted (r : Report) : Report.ofJson r.toJson.sorted = .ok r.inOrder := by
  have hviolations := Violation.ofItems_map Violation.ofJson_sorted r.violations
  rw [toJson, sorted_object]
  simp [ofJson, membersOf, required, Members.get?_inOrder, Members.get?, itemsOf,
    Violation.sorted_optionalText, textOf, levelOf, Function.comp_def, hviolations, Json.isTruthy,
    Level.ofOption_label, optionalTextOf_optionalText, inOrder]

/-! ### The document -/

theorem Violation.isData_optionalText (depth : Nat) (s : Option String) :
    Json.IsData depth (optionalText s) := by
  cases s with
  | none => exact .null
  | some s => exact .text s

theorem Violation.isData_toJson {depth : Nat} {v : Violation}
    (h : Json.IsData depth (.object v.context)) : Json.IsData (depth + 1) v.toJson := by
  apply IsData.object (by simp)
  intro m hm
  simp only [List.mem_cons, List.not_mem_nil, or_false] at hm
  rcases hm with rfl | rfl | rfl | rfl | rfl
  · exact .text _
  · exact .text _
  · exact .text _
  · exact isData_optionalText depth v.remediation
  · exact h

theorem Report.IsData.toJson {r : Report} (h : r.IsData) : Json.IsData maxDepth r.toJson := by
  show Json.IsData (maxDepth - 1 + 1) _
  apply Json.IsData.object (by simp)
  intro m hm
  have hviolations : Json.IsData (maxDepth - 1) (.list (r.violations.map Violation.toJson)) := by
    show Json.IsData (maxDepth - 2 + 1) _
    apply Json.IsData.list
    intro x hx
    obtain ⟨v, hv, rfl⟩ := List.mem_map.mp hx
    exact Violation.isData_toJson (h.contexts v hv)
  simp only [List.mem_cons, List.not_mem_nil, or_false] at hm
  rcases hm with rfl | rfl | rfl | rfl | rfl | rfl | rfl | rfl
  · exact .text _
  · exact .text _
  · exact .text _
  · exact .bool _
  · exact .text _
  · exact Violation.isData_optionalText _ r.configPath
  · exact hviolations
  · exact h.metadata

theorem Report.IsData.same_inOrder {r : Report} (h : r.IsData) : r.Same r.inOrder := by
  have hviolations : List.Forall₂ Violation.Same r.violations (r.violations.map Violation.inOrder) := by
    rw [List.forall₂_map_right_iff, List.forall₂_same]
    intro v hv
    exact
      { rule := rfl
        severity := rfl
        message := rfl
        remediation := rfl
        context := by simpa [Violation.inOrder] using (h.contexts v hv).same_sorted }
  exact
    { tool := rfl
      version := rfl
      status := rfl
      failing := rfl
      threshold := rfl
      configPath := rfl
      violations := hviolations
      metadata := by simpa [inOrder] using h.metadata.same_sorted }

/-- Reading the document of a report as JSON gives its sorted JSON, for every indent. -/
theorem Report.IsData.read_toDocument {r : Report} (h : r.IsData) (indent : Option Int) :
    Json.read (r.toDocument indent).toList = .ok r.toJson.sorted := by
  rw [toDocument, String.toList_ofList]
  apply h.toJson.sorted.read_write
  intro c hc
  rw [List.mem_singleton.mp hc]
  rfl

theorem Report.get?_failing_sorted (r : Report) : r.toJson.sorted.get? "failing" = some (.bool r.failing) := by
  rw [toJson, sorted_object, Json.get?, Members.get?_inOrder (by simp)]
  simp [Members.get?]

/-- **A report is kept by its JSON and by its document.**  Read from the JSON it is the same report,
    and read from the document it differs at most in the order of the members of mappings. -/
theorem Report.ofJson_read_toDocument {r : Report} (h : r.IsData) (indent : Option Int) :
    Report.ofJson r.toJson = .ok r ∧
      ∃ v s, Json.read (r.toDocument indent).toList = .ok v ∧ Report.ofJson v = .ok s ∧ r.Same s := by
  refine ⟨r.ofJson_toJson, r.toJson.sorted, r.inOrder, ?_, ?_, ?_⟩
  · exact h.read_toDocument indent
  · exact r.ofJson_sorted
  · exact h.same_inOrder

def Violation.nestedContext : Members :=
  [("wanted", .list [.null, .int (-7), .object [("b", .bool true), ("a", .text "\n")]]),
    ("found", .object [])]

theorem Violation.isData_nestedContext (depth : Nat) : Json.IsData (depth + 3) (.object nestedContext) := by
  have hint : Json.IsData (depth + 1) (.int (-7)) := .int (by decide)
  have hinner : Json.IsData (depth + 1) (.object [("b", .bool true), ("a", .text "\n")]) := by
    apply IsData.object (by simp)
    simp only [List.forall_mem_cons]
    exact ⟨.bool true, .text "\n", by simp⟩
  have hwanted : Json.IsData (depth + 2)
      (.list [.null, .int (-7), .object [("b", .bool true), ("a", .text "\n")]]) := by
    apply IsData.list
    simp only [List.forall_mem_cons]
    exact ⟨.null, hint, hinner, by simp⟩
  apply IsData.object (by simp [nestedContext])
  simp only [nestedContext, List.forall_mem_cons]
  exact ⟨hwanted, .object List.nodup_nil (by simp), by simp⟩

def Report.nested : Report where
  tool := "gate"
  version := "1.0"
  status := "fail"
  failing := true
  threshold := .warn
  violations := [⟨"denied", .error, "left-pad is denied", none, Violation.nestedContext⟩]
  metadata := Violation.nestedContext

theorem Report.isData_nested : Report.nested.IsData where
  contexts := by
    intro v hv
    rw [List.mem_singleton.mp hv]
    exact Violation.isData_nestedContext (maxDepth - 6)
  metadata := Violation.isData_nestedContext (maxDepth - 4)

theorem Report.ofJson_read_toDocument_nested :
    Report.nested.IsData ∧ Report.ofJson Report.nested.toJson = .ok Report.nested ∧
      ∃ v s, Json.read (Report.nested.toDocument (some 2)).toList = .ok v ∧ Report.ofJson v = .ok s ∧
        Report.nested.Same s :=
  ⟨Report.isData_nested, Report.ofJson_read_toDocument Report.isData_nested (some 2)⟩

end MergeGate
