import MergeGate.Report.Basic

/-
  MergeGate/Report/Text.lean
  ==========================
  **Reports for the terminal.**  One line sums the report up.  The quiet form is that line; the
  normal form goes on with a block for each violation in order; the verbose form also tells the
  tool, the policy file and the threshold before it, and the values concerned in each block.
  Blanks at the very end are trimmed and one line feed is put there.
-/

namespace MergeGate

open MergeGate.Text

/-- How much of a report is shown. -/
inductive Verbosity where
  | quiet
  | normal
  | verbose
  deriving DecidableEq, Repr

def Status.mark : Status → String
  | .pass => "✓"
  | .warn => "!"
  | .fail => "✗"

namespace Report

/-- The line that sums a report up. -/
def summaryLine (status : Status) (r : Report) : String :=
  if r.violations.isEmpty then status.mark ++ " No violations"
  else
    let parts := r.counts.map fun p => toString p.2 ++ " " ++ p.1.label
    status.mark ++ " " ++ toString r.violations.length ++ " violations (" ++ String.intercalate ", " parts
      ++ ") [" ++ r.status ++ ", " ++ (if r.failing then "failing" else "not failing") ++ "]"

def inNameOrder (ms : Json.Members) : Json.Members := ms.mergeSort fun a b => Json.textLe a.1 b.1

def block (verbosity : Verbosity) (v : Violation) : List String :=
  let fix := match v.remediation with
    | none => []
    | some s => if s = "" then [] else ["    fix: " ++ s]
  let values := match verbosity with
    | .verbose => (inNameOrder v.context).map fun m => "    " ++ m.1 ++ ": " ++ m.2.literal
    | _ => []
  ("  ✗ " ++ v.severity.loudLabel ++ " [" ++ v.rule ++ "]") :: ("    " ++ v.message) :: (fix ++ values)

/-- The lines before the summary. -/
def preamble (r : Report) : Verbosity → List String
  | .verbose =>
    (r.tool ++ " " ++ r.version) :: (r.shownPath?.toList.map fun p => "config: " ++ p)
      ++ ["fail_on: " ++ r.threshold.label, ""]
  | _ => []

/-- Lines with line feeds between them. -/
def joinLines (ls : List String) : List Char := joinWith ['\n'] (ls.map String.toList)

/-- The text of a report whose status is known. -/
def textWith (status : Status) (verbosity : Verbosity) (r : Report) : List Char :=
  match verbosity with
  | .quiet => (r.summaryLine status).toList ++ ['\n']
  | v => trimBack (joinLines (r.preamble v ++ [r.summaryLine status, ""] ++ r.violations.flatMap (block v))) ++ ['\n']

def toText (verbosity : Verbosity) (r : Report) : Except UnknownStatus String :=
  r.status?.map fun s => String.ofList (r.textWith s verbosity)

theorem textWith_quiet (status : Status) (r : Report) :
    r.textWith status .quiet = (r.summaryLine status).toList ++ ['\n'] := rfl

end Report

end MergeGate
