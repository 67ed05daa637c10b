import MergeGate.Report.Basic
import MergeGate.Report.Table

/-
  MergeGate/Report/Comment.lean
  =============================
  **Reports as a comment.**  The comment on a pull request begins with a marker by which later
  runs find it.  It tells the outcome, counts the violations by severity in a table and quotes
  each of them; when there are more than a limit the rest is only counted.  A negative limit
  leaves out so many at the end.
-/

namespace MergeGate

open MergeGate.Text

def commentMarker : String := "<!-- repo-policy-gate -->"

def Status.emblem : Status → String
  | .pass => "✅ Pass"
  | .warn => "⚠️ Warn"
  | .fail => "❌ Fail"

/-- The items that a limit lets through; a negative limit counts from the end. -/
def limited {α : Type} (limit : Int) (xs : List α) : List α :=
  if 0 ≤ limit then xs.take limit.toNat else xs.take (xs.length - limit.natAbs)

namespace Report

/-- Lines with line feeds between them. -/
def commentLines (ls : List (List Char)) : List Char := joinWith ['\n'] ls

/-- The lines of the header after the marker. -/
def headerRest (status : Status) (r : Report) : List (List Char) :=
  let parts := ["**Status:** " ++ status.emblem, "**Fail on:** " ++ ticked r.threshold.label]
    ++ r.shownPath?.toList.map fun p => "**Config:** " ++ ticked p
  ["### 🛡 Repo Policy Gate".toList, [], (String.intercalate " | " parts).toList, []]

def header (status : Status) (r : Report) : List Char :=
  commentLines (commentMarker.toList :: r.headerRest status)

/-- The table of severities and their numbers. -/
def countTable (r : Report) : List Char :=
  Table.layout ["Severity".toList, "Count".toList]
    (r.counts.map fun p => [p.1.title.toList, (toString p.2).toList])

def summary (r : Report) : List Char :=
  if r.violations.isEmpty then "No policy violations. 🎉\n".toList
  else
    commentLines [("#### Violations (" ++ toString r.violations.length ++ " total)").toList, [], r.countTable, []]

/-- The lines that quote a violation. -/
def quotation (v : Violation) : List (List Char) :=
  let fix := match v.remediation with
    | none => []
    | some s => if s = "" then [] else [("> *" ++ s ++ "*").toList]
  ("> **" ++ v.severity.loudLabel ++ "** " ++ ticked v.rule).toList :: ("> " ++ v.message).toList :: fix

/-- The line that counts what the limit has cut. -/
def cutLines (cut : Nat) : List (List Char) :=
  if cut = 0 then [] else [("*… and " ++ toString cut ++ " more.*").toList, []]

/-- The quoted violations. -/
def quotations (limit : Int) (r : Report) : List Char :=
  if r.violations.isEmpty then []
  else
    let shown := limited limit r.violations
    commentLines (shown.flatMap (fun v => quotation v ++ [[]]) ++ cutLines (r.violations.length - shown.length))

def footer (r : Report) : List Char := ("---\n*Generated by policygate v" ++ r.version ++ "*").toList

/-- The comment of a report whose status is known. -/
def commentWith (status : Status) (limit : Int) (r : Report) : List Char :=
  let sections := [r.header status, r.summary, r.quotations limit, r.footer]
  commentLines (sections.filter fun s => !s.isEmpty) ++ ['\n']

/-- How many violations a comment quotes. -/
def commentLimit : Int := 50

def toComment (limit : Int) (r : Report) : Except UnknownStatus String :=
  r.status?.map fun s => String.ofList (r.commentWith s limit)

theorem limited_length_le {α : Type} (limit : Int) (xs : List α) : (limited limit xs).length ≤ xs.length := by
  unfold limited
  split
  · exact List.length_take_le' _ _
  · exact List.length_take_le' _ _

end Report

end MergeGate
