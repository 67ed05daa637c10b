import MergeGate.Violation

/-
  MergeGate/Note.lean
  ===================
  **Notes on a run.**  While it works the gate notes what it does and what it passes over.  A note
  has a weight, the part of the gate it comes from and a sentence; how many notes are shown
  depends on how much the caller wants to hear.
-/

namespace MergeGate

inductive Weight where
  | detail
  | progress
  | warning
  | grave
  deriving DecidableEq, Repr

def Weight.rank : Weight → Nat
  | .detail => 0
  | .progress => 1
  | .warning => 2
  | .grave => 3

def Weight.label : Weight → String
  | .detail => "DEBUG"
  | .progress => "INFO"
  | .warning => "WARNING"
  | .grave => "ERROR"

inductive Note where
  /-- A deny rule has a separator and no range after it. -/
  | blankRange (rule name : String)
  /-- The deny rules were compared with the dependencies. -/
  | denylistCompared (rules dependencies found : Nat)
  /-- A lock manifest was read. -/
  | manifestRead (count : Nat) (table : String) (source : Option String)
  /-- An evaluation came to its verdict. -/
  | evaluated (count : Nat) (verdict : Verdict)
  /-- There is no policy file. -/
  | policyAbsent (path : String)
  /-- A severity is given to something that is no rule. -/
  | unknownRule (name : String)
  /-- Nothing is enforced, because there is no policy file. -/
  | nothingEnforced (path : String)
  /-- The event file does not exist. -/
  | eventMissing (path : String)
  /-- The event file is not JSON. -/
  | eventUnreadable (path : String)
  /-- The comment of an earlier run is replaced. -/
  | commentUpdated (id repository number : String)
  /-- A comment is written. -/
  | commentCreated (repository number : String)
  deriving Repr

namespace Note

def weight : Note → Weight
  | .blankRange .. => .warning
  | .denylistCompared .. => .detail
  | .manifestRead .. => .detail
  | .evaluated .. => .detail
  | .policyAbsent .. => .detail
  | .unknownRule .. => .warning
  | .nothingEnforced .. => .warning
  | .eventMissing .. => .warning
  | .eventUnreadable .. => .warning
  | .commentUpdated .. => .progress
  | .commentCreated .. => .progress

/-- The part of the gate that a note comes from. -/
def origin : Note → String
  | .blankRange .. => "policygate.rules.denylist"
  | .denylistCompared .. => "policygate.rules.denylist"
  | .manifestRead .. => "policygate.lockfile.reader"
  | .evaluated .. => "policygate.core.engine"
  | .policyAbsent .. => "policygate.config.loader"
  | .unknownRule .. => "policygate.config.loader"
  | .nothingEnforced .. => "policygate.cli.check"
  | .eventMissing .. => "policygate.vcs.github"
  | .eventUnreadable .. => "policygate.vcs.github"
  | .commentUpdated .. => "policygate.vcs.github"
  | .commentCreated .. => "policygate.vcs.github"

/-- A truth value as notes show it. -/
def truthLabel (b : Bool) : String := if b then "True" else "False"

def message : Note → String
  | .blankRange rule name =>
    "deny rule '" ++ rule ++ "' has an empty version range; every version of '" ++ name ++ "' is banned"
  | .denylistCompared rules dependencies found =>
    "denylist: " ++ toString rules ++ " rule(s), " ++ toString dependencies ++ " dependencies, "
      ++ toString found ++ " match(es)"
  | .manifestRead count table source =>
    "read " ++ toString count ++ " dependencies from '" ++ table ++ "' section of " ++ source.getD "None"
  | .evaluated count verdict =>
    "evaluated " ++ toString count ++ " violation(s): status=" ++ verdict.status.label ++ " failing="
      ++ truthLabel verdict.failing
  | .policyAbsent path => "no policy file at " ++ path
  | .unknownRule name => "Ignoring severity override for unknown rule id " ++ name
  | .nothingEnforced path => "No policy file at " ++ path ++ "; nothing enforced"
  | .eventMissing path => "GITHUB_EVENT_PATH points to a missing file: " ++ path
  | .eventUnreadable path => "Could not parse event payload: " ++ path
  | .commentUpdated id repository number =>
    "Updating policy comment " ++ id ++ " on " ++ repository ++ "#" ++ number
  | .commentCreated repository number => "Creating policy comment on " ++ repository ++ "#" ++ number

def line (n : Note) : String := n.weight.label ++ " " ++ n.origin ++ ": " ++ n.message

/-- Whether a note is at least as weighty as asked for. -/
def isShown (least : Weight) (n : Note) : Bool := least.rank ≤ n.weight.rank

/-- The sentences of the warnings among notes. -/
def warnings (ns : List Note) : List String := (ns.filter (isShown .warning)).map message

end Note

/-- Violations found, and the notes made on the way. -/
structure Findings where
  violations : List Violation := []
  notes : List Note := []

end MergeGate
