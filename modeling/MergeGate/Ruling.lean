import MergeGate.Pattern.Match
import MergeGate.Policy.Basic

/-
  MergeGate/Ruling.lean
  =====================
  **Rules on the title and on required files.**  Without a policy, or with a title pattern that is at
  fault, there is one violation and nothing else is looked at.  Otherwise the title has to hold a
  match of the pattern, and every required file has to exist; all missing files make up one
  violation.

  A fault that lies outside the grammar of patterns is no violation; it ends the evaluation.
-/

namespace MergeGate

open MergeGate.Text

/-- What the rules on title and files find; when it is final, no other rule is looked at. -/
structure Ruling where
  violations : List Violation
  isFinal : Bool := false

namespace Ruling

def policyMissing : Violation where
  rule := Rule.configMissing.id
  severity := .warn
  message := "No policy configuration found. Nothing enforced."
  remediation := some "Add a `.repo-policy.yml` at the repository root."

def patternInvalid (pattern : String) (fault : Pattern.Fault) : Violation where
  rule := Rule.titlePatternInvalid.id
  severity := .error
  message := "Configured title pattern " ++ ticked pattern ++ " does not compile: "
    ++ fault.message pattern.toList ++ "."
  remediation := some "Fix `pull_request.title_regex` in the policy file."
  context := [("pattern", .text pattern), ("error", .text (fault.message pattern.toList))]

/-- The title does not hold the pattern. -/
def titleMismatch (pattern title : String) : Violation where
  rule := Rule.titleMismatch.id
  severity := .error
  message := "PR title " ++ ticked title ++ " does not match required pattern " ++ ticked pattern ++ "."
  remediation := some "Rename the pull request so its title matches the pattern."
  context := [("pattern", .text pattern), ("title", .text title)]

/-- Some required files do not exist. -/
def filesMissing (paths : List String) : Violation where
  rule := Rule.requiredFiles.id
  severity := .error
  message := "Required files missing: " ++ String.intercalate ", " (paths.map ticked) ++ "."
  remediation := some "Add the missing files at the repository root."
  context := [("missing", .list (paths.map .text))]

/-- The violation of a title by a pattern that is in order. -/
def ofTitle (pattern : Pattern) (source title : String) : List Violation :=
  if pattern.isFoundIn title.toList then [] else [titleMismatch source title]

/-- The violation of required files that do not exist. -/
def ofFiles (required : List String) (fileExists : String → Bool) : List Violation :=
  let missing := required.filter fun p => !fileExists p
  if missing.isEmpty then [] else [filesMissing missing]

/-- The ruling on a title and on files; an error is a cause that no violation tells of. -/
def ofPolicy (policy : Option Policy) (title : String) (fileExists : String → Bool) :
    Except Pattern.Cause Ruling :=
  match policy with
  | none => .ok ⟨[policyMissing], true⟩
  | some policy =>
    match policy.titlePattern with
    | none => .ok ⟨ofFiles policy.requiredFiles fileExists, false⟩
    | some source =>
      match Pattern.ofText source.toList with
      | .ok pattern => .ok ⟨ofTitle pattern source title ++ ofFiles policy.requiredFiles fileExists, false⟩
      | .error fault =>
        if fault.cause.isForeign then .error fault.cause else .ok ⟨[patternInvalid source fault], true⟩

end Ruling

end MergeGate
