import MergeGate.DenyRule
import MergeGate.Manifest.Reader

/-
  MergeGate/Denylist.lean
  =======================
  **Comparing deny rules with the records of a manifest.**  Every range is compiled first, and each
  one that cannot be read is a violation.  If any is, or if there is no list of records, nothing is
  compared in this run.  Otherwise all matches of all rules make up one violation, in the order
  of the rules and, for one rule, of the records.
-/

namespace MergeGate

open MergeGate.Text

/-- A deny rule with its compiled range; no range stands for every version. -/
structure CompiledRule where
  rule : DenyRule
  range : Option Range

/-- A record that a rule bans. -/
structure Match where
  rule : DenyRule
  record : Record
  deriving DecidableEq, Repr

namespace Match

/-- A match as reports show it. -/
def text (m : Match) : String := m.record.text ++ " (rule: " ++ m.rule.raw ++ ")"

def toJson (m : Match) : Json := .object [("dependency", .text m.record.text), ("rule", .text m.rule.raw)]

end Match

namespace CompiledRule

def bans (c : CompiledRule) (r : Record) : Bool :=
  r.name == c.rule.name &&
    match c.range with
    | none => true
    | some range =>
      match Version.ofString? r.version with
      | none => false
      | some v => range.accepts v

/-- The matches of a rule, in the order of the records. -/
def found (c : CompiledRule) (rs : List Record) : List Match :=
  (rs.filter c.bans).map fun r => ⟨c.rule, r⟩

end CompiledRule

namespace DenyRule

def compile (r : DenyRule) : Except RangeError CompiledRule :=
  match r.range? with
  | none => .ok ⟨r, none⟩
  | some s =>
    match Range.parse s with
    | .ok range => .ok ⟨r, some range⟩
    | .error e => .error e

/-- The violation of a rule whose range cannot be read. -/
def invalidViolation (r : DenyRule) (e : RangeError) : Violation where
  rule := Rule.denylistInvalid.id
  severity := .error
  message := "Invalid denylist rule " ++ ticked r.raw ++ ": " ++ e.message ++ "."
  remediation := some "Fix the version range. Denylist enforcement is paused until every rule is valid."
  context := [("rule", .text r.raw), ("range", (r.range?.map Json.text).getD .null)]

end DenyRule

/-- An absent text is null. -/
def Json.ofText? : Option String → Json
  | none => .null
  | some s => .text s

/-- The violation of a manifest without a list of records. -/
def Manifest.absentViolation (severity : Severity) (m : Manifest) : Violation :=
  let name := match m.source with
    | none => "lock manifest"
    | some s => if s = "" then "lock manifest" else s
  let fault := match m with
    | .invalid e _ => " could not be parsed (" ++ e.getD "None" ++ ")."
    | _ => " was not found."
  { rule := Rule.manifestMissing.id
    severity := severity
    message := "Dependency denylist is configured but " ++ ticked name ++ fault
    remediation := some "Commit a valid package-lock.json so denied dependencies can be checked."
    context := [("reason", Json.ofText? m.absence?), ("source", Json.ofText? m.source)] }

namespace Denylist

/-- Texts with a comma and a blank between them. -/
def listed (ss : List String) : String := String.intercalate ", " ss

/-- The one violation for all matches. -/
def foundViolation (ms : List Match) : Violation where
  rule := Rule.denylist.id
  severity := .error
  message := "Denied dependencies found: " ++ listed (ms.map fun m => ticked m.text) ++ "."
  remediation := some "Upgrade or remove the listed packages and regenerate the lock manifest."
  context := [("matches", .list (ms.map Match.toJson))]

/-- The rules that could be compiled, in order. -/
def compiled (rules : List DenyRule) : List CompiledRule := rules.filterMap fun r => r.compile.toOption

/-- The violations of the rules that could not be compiled, in order. -/
def invalid (rules : List DenyRule) : List Violation :=
  rules.filterMap fun r =>
    match r.compile with
    | .ok _ => none
    | .error e => some (r.invalidViolation e)

/-- All matches: rule by rule, and for each rule in the order of the records. -/
def found (rules : List CompiledRule) (rs : List Record) : List Match := rules.flatMap fun c => c.found rs

/-- Evaluates deny rules against a manifest; `absence` is the severity of an absent manifest. -/
def evaluate (absence : Severity) (raws : List String) (m : Manifest) : Findings :=
  if raws.isEmpty then {}
  else
    let rules := raws.map DenyRule.parse
    let faulty := invalid rules
    let absent := if m.isAvailable then [] else [m.absentViolation absence]
    let notes := rules.flatMap DenyRule.notes
    if faulty.isEmpty && m.isAvailable then
      let compiled := compiled rules
      let banned := found compiled m.records
      { violations := if banned.isEmpty then [] else [foundViolation banned]
        notes := notes ++ [.denylistCompared compiled.length m.records.length banned.length] }
    else { violations := faulty ++ absent, notes := notes }

end Denylist

end MergeGate
