import MergeGate.Note
import MergeGate.Path
import MergeGate.Policy.Basic
import MergeGate.Policy.Fault
import MergeGate.Text.Lines
import MergeGate.Yaml.Document

/-
  MergeGate/Policy/Reader.lean
  ============================
  **Reading a policy file.**  A file whose name ends in `.json` holds JSON, any other one YAML.  Its root
  is a mapping with the sections `pull_request`, `files` and `dependencies`, the mapping
  `severity` and the text `fail_on`; each of them may be left out or null, and an empty file is
  the empty policy.  `Policy.ofEntries` reads the root, `Policy.ofFile` a whole file.

  Values that are no texts stand for their texts.  Paths and deny rules are trimmed, and those that
  are blank are dropped.  A severity for something that is no rule is noted and dropped.
-/

namespace MergeGate

open MergeGate.Text

namespace Policy

abbrev Entries := List (Datum × Datum)

/-- A policy, and what is noted while it is read. -/
structure Reading where
  policy : Policy
  notes : List Note := []

/-! ### Parts of a policy -/

/-- The value of an entry, null if there is none. -/
def part (es : Entries) (name : String) : Datum := ((Datum.lookup name es).getD .null).untied

def textOf (v : Datum) : Except Failure String := v.text?.mapError .unwritten

/-- The entries of a section, none if it is null. -/
def sectionOf (root : Entries) (s : Section) : Except Failure Entries :=
  match part root s.name with
  | .null => .ok []
  | .mapping es => .ok es
  | _ => .error (.fault (.sectionNotMapping s))

/-- A text that may be null; `name` is what it is called. -/
def optionalText (name : String) (v : Datum) : Except Failure (Option String) :=
  match v with
  | .null => .ok none
  | .mapping _ => .error (.fault (.notText name))
  | .list _ => .error (.fault (.notText name))
  | v => (textOf v).map some

/-- A text that is not blank, trimmed. -/
def filled? (s : String) : Option String := if trimmed s = "" then none else some (trimmed s)

/-- The trimmed texts of the items of a list that are neither null nor blank. -/
def filledItems : List Datum → Except Failure (List String)
  | [] => .ok []
  | .null :: vs => filledItems vs
  | v :: vs => do
    let s ← textOf v
    let rest ← filledItems vs
    return (filled? s).toList ++ rest

/-- A list of texts, which may be null or a single text; `name` is what it is called. -/
def textList (name : String) (v : Datum) : Except Failure (List String) :=
  match v with
  | .null => .ok []
  | .text s => .ok (filled? s).toList
  | .list items => filledItems items
  | _ => .error (.fault (.notTextList name))

/-- The level that a value stands for. -/
def levelText (v : Datum) : Except Failure String :=
  match v with
  | .null => .ok ""
  | v => textOf v

/-- The severities that entries give to rules, after those that are known already. -/
def severitiesOf (known : Overrides) : Entries → Except Failure (Overrides × List Note)
  | [] => .ok (known, [])
  | (.text key, v) :: es =>
    match filled? key with
    | none => severitiesOf known es
    | some name =>
      if Rule.isKnownId name then do
        let level ← levelText v
        severitiesOf (known.put name (.text level)) es
      else do
        let (all, notes) ← severitiesOf known es
        return (all, .unknownRule (quoted key) :: notes)
  | _ :: es => severitiesOf known es

def severities? (v : Datum) : Except Failure (Overrides × List Note) :=
  match v with
  | .null => .ok ([], [])
  | .mapping es => severitiesOf [] es
  | _ => .error (.fault .severityNotMapping)

def ofEntries (root : Entries) : Except Failure Reading := do
  let pullRequest ← sectionOf root .pullRequest
  let files ← sectionOf root .files
  let dependencies ← sectionOf root .dependencies
  let lockfile ← optionalText "dependencies.lockfile" (part dependencies "lockfile")
  let titlePattern ← optionalText "pull_request.title_regex" (part pullRequest "title_regex")
  let requiredFiles ← textList "files.required" (part files "required")
  let denylist ← textList "dependencies.denylist" (part dependencies "denylist")
  let (severities, notes) ← severities? (part root "severity")
  let failOn ← optionalText "fail_on" (part root "fail_on")
  let policy : Policy :=
    { titlePattern, requiredFiles, denylist, severities, failOn, lockfile := filledOr lockfile defaultLockfile }
  return ⟨policy, notes⟩

/-! ### Files -/

/-- Whether a file holds JSON. -/
def isJsonPath (path : Path) : Bool := path.suffix.map lower == ".json".toList

/-- The value of a JSON text; a blank one is null. -/
def jsonValue (path : Path) (cs : List Char) : Except Failure Datum :=
  if (trim cs).isEmpty then .ok .null
  else
    match Json.read cs with
    | .ok v => .ok (Datum.ofJson v)
    | .error (.tooDeep inObject) => .error (.json (.tooDeep inObject))
    | .error e => .error (.fault (.notJson path.text e))

def yamlValue (path : Path) (cs : List Char) : Except Failure Datum :=
  match Yaml.read cs with
  | .ok v => .ok v
  | .error .malformed => .error (.fault (.notYaml path.text))
  | .error fault => .error (.yaml fault)

def fileValue (encoding : Encoding) (path : Path) (octets : List UInt8) : Except Failure Datum :=
  match encoding.decode octets with
  | .error fault => .error (.fault (.notDecodable path.text fault))
  | .ok cs =>
    let cs := unifyLineEnds cs
    if isJsonPath path then jsonValue path cs else yamlValue path cs

/-- The policy of the value of a file; null is the empty policy. -/
def ofValue (v : Datum) : Except Failure Reading :=
  match v.untied with
  | .null => .ok ⟨{}, []⟩
  | .mapping es => ofEntries es
  | _ => .error (.fault .rootNotMapping)

/-- The policy of a file, none if the file does not exist. -/
def ofFile (encoding : Encoding) (path : Path) (octets : Option (List UInt8)) :
    Except Failure (Option Policy × List Note) :=
  match octets with
  | none => .ok (none, [.policyAbsent path.text])
  | some octets => do
    let reading ← ofValue (← fileValue encoding path octets)
    return (some reading.policy, reading.notes)

end Policy

end MergeGate
