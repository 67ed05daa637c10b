import MergeGate.Report.Basic

/-
  MergeGate/Report/Document.lean
  ==============================
  **Reports for machines.**  The JSON text of a report has the members of every object in the order
  of their names, so equal reports give equal texts.
-/

namespace MergeGate.Report

/-- The JSON text of a report, with an indent or without gaps. -/
def toDocument (indent : Option Int) (r : Report) : String :=
  String.ofList (Json.write indent r.toJson.sorted ++ ['\n'])

end MergeGate.Report
