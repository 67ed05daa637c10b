import MergeGate.Violation
import MergeGate.Json.Writer
import MergeGate.Datum

/-
  MergeGate/Report/Basic.lean
  ===========================
  **Reports.**  A report is all that is shown of a run: the tool, the outcome, the violations in
  the order in which they were found, and data about the run.  `Report.toJson` and
  `Report.ofJson` carry it to JSON and back.

  The status of a report is the word it was given; only the three words of `Status` can be shown
  to people.
-/

namespace MergeGate

open MergeGate.Text

/-- What is shown of a run. -/
structure Report where
  tool : String
  version : String
  status : String
  failing : Bool
  threshold : Severity
  violations : List Violation := []
  configPath : Option String := none
  metadata : Json.Members := []
  deriving Inhabited

structure MissingMember where
  name : String
  deriving DecidableEq, Repr

def MissingMember.message (e : MissingMember) : String := quoted e.name

namespace Violation

/-- An absent text is null. -/
def optionalText : Option String → Json
  | none => .null
  | some s => .text s

def toJson (v : Violation) : Json :=
  .object [("rule_id", .text v.rule), ("severity", .text v.severity.label), ("message", .text v.message),
    ("remediation", optionalText v.remediation), ("context", .object v.context)]

end Violation

namespace Report

/-- The text of a value that is to be one. -/
def textOf : Json → String
  | .text s => s
  | v => v.plainText

/-- The text of a value that is one or null. -/
def optionalTextOf : Option Json → Option String
  | none => none
  | some .null => none
  | some v => some (textOf v)

/-- The members of a value that is an object; none for any other. -/
def membersOf : Option Json → Json.Members
  | some (.object ms) => ms
  | _ => []

/-- A severity as it is written in a value. -/
def levelOf : Option Json → Option Level
  | none => none
  | some .null => none
  | some (.text s) => some (.text s)
  | some _ => some .other

/-- The value of a member that has to be there. -/
def required (ms : Json.Members) (name : String) : Except MissingMember Json :=
  match Json.Members.get? ms name with
  | some v => .ok v
  | none => .error ⟨name⟩

end Report

/-- Reads a violation; the rule is missed before the message. -/
def Violation.ofJson (v : Json) : Except MissingMember Violation :=
  let ms := Report.membersOf (some v)
  match Report.required ms "rule_id" with
  | .error e => .error e
  | .ok rule =>
    match Report.required ms "message" with
    | .error e => .error e
    | .ok message =>
      .ok
        { rule := Report.textOf rule
          severity := Level.ofOption (Report.levelOf (Json.Members.get? ms "severity"))
          message := Report.textOf message
          remediation := Report.optionalTextOf (Json.Members.get? ms "remediation")
          context := Report.membersOf (Json.Members.get? ms "context") }

/-- Reads violations in order. -/
def Violation.ofItems : List Json → Except MissingMember (List Violation)
  | [] => .ok []
  | x :: xs =>
    match Violation.ofJson x with
    | .error e => .error e
    | .ok v =>
      match Violation.ofItems xs with
      | .error e => .error e
      | .ok vs => .ok (v :: vs)

namespace Report

def toJson (r : Report) : Json :=
  .object [("tool", .text r.tool), ("version", .text r.version), ("status", .text r.status),
    ("failing", .bool r.failing), ("fail_threshold", .text r.threshold.label),
    ("config_path", Violation.optionalText r.configPath), ("violations", .list (r.violations.map Violation.toJson)),
    ("metadata", .object r.metadata)]

/-- The items of a value that is a list; none for any other. -/
def itemsOf : Option Json → List Json
  | some (.list xs) => xs
  | _ => []

/-- Reads a report; tool, version and status have to be there. -/
def ofJson (v : Json) : Except MissingMember Report :=
  let ms := membersOf (some v)
  match required ms "tool" with
  | .error e => .error e
  | .ok tool =>
    match required ms "version" with
    | .error e => .error e
    | .ok version =>
      match required ms "status" with
      | .error e => .error e
      | .ok status =>
        match Violation.ofItems (itemsOf (Json.Members.get? ms "violations")) with
        | .error e => .error e
        | .ok violations =>
          .ok
            { tool := textOf tool
              version := textOf version
              status := textOf status
              failing := ((Json.Members.get? ms "failing").map Json.isTruthy).getD false
              threshold := Level.ofOption (levelOf (Json.Members.get? ms "fail_threshold"))
              violations := violations
              configPath := optionalTextOf (Json.Members.get? ms "config_path")
              metadata := membersOf (Json.Members.get? ms "metadata") }

/-- Whether two reports say the same, values of objects in the same order. -/
def same (a b : Report) : Bool := a.toJson == b.toJson

def count (r : Report) (s : Severity) : Nat := r.violations.countP fun v => v.severity = s

/-- The severities that occur, the gravest first, each with the number of its violations. -/
def counts (r : Report) : List (Severity × Nat) :=
  (Severity.ordered.map fun s => (s, r.count s)).filter fun p => p.2 ≠ 0

/-- The text of a path that is known and not empty. -/
def shownPath? (r : Report) : Option String := r.configPath.filter fun p => p ≠ ""

def ofVerdict (tool version : String) (verdict : Verdict) (violations : List Violation)
    (configPath : Option String) (metadata : Json.Members) : Report :=
  ⟨tool, version, verdict.status.label, verdict.failing, verdict.threshold, violations, configPath, metadata⟩

theorem count_error_add_count_warn (r : Report) :
    r.count .error + r.count .warn = r.violations.length := by
  unfold count
  induction r.violations with
  | nil => rfl
  | cons v vs ih =>
    simp only [List.countP_cons, List.length_cons]
    cases h : v.severity <;> simp <;> omega

end Report

/-- A status that cannot be shown. -/
structure UnknownStatus where
  status : String
  deriving DecidableEq, Repr

/-- An unknown status is told by its quoted word. -/
def UnknownStatus.message (e : UnknownStatus) : String := quoted e.status

/-- The status of a report, if it can be shown. -/
def Report.status? (r : Report) : Except UnknownStatus Status :=
  match Status.ofLabel? r.status with
  | some s => .ok s
  | none => .error ⟨r.status⟩

end MergeGate
