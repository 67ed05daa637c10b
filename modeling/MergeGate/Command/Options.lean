import MergeGate.Command.Arguments
import MergeGate.Report.Text

/-
  MergeGate/Command/Options.lean
  ==============================
  **What the command line asks for.**  The tool has one command, `check`, which takes the root of a
  checkout and options.  `--version` and `--help` before the command, and `--help` after it, are
  answered at once.  Options are looked at in the order in which they are written, so the first one
  that is at fault or is answered at once decides.
-/

namespace MergeGate.Command

/-- The forms in which a report may be printed. -/
inductive Format where
  | text
  | json
  | github
  deriving DecidableEq, Repr

/-- The form of a name. -/
def Format.ofLabel? (s : String) : Option Format :=
  match s with
  | "text" => some .text
  | "json" => some .json
  | "github" => some .github
  | _ => none

/-- What a check is asked for. -/
structure Options where
  path : String := "."
  policyFile : Option String := none
  title : Option String := none
  lockfile : Option String := none
  format : Format := .text
  failOn : Option String := none
  comment : Bool := false
  verbosity : Verbosity := .normal
  deriving DecidableEq, Repr

/-- What comes of reading a command line. -/
inductive Request where
  | check (options : Options)
  | showVersion
  | showHelp
  deriving DecidableEq, Repr

/-- Why a command line asks for nothing. -/
inductive UsageFault where
  | misused
  /-- A value of two dashes, written with its option, is taken for a mark, and no value is left. -/
  | valueLost
  deriving DecidableEq, Repr

/-- The sentence that tells of a lost value. -/
def UsageFault.message : UsageFault → String
  | .misused => "usage: policygate [--help] [--version] check [path] [options]"
  | .valueLost => "not enough values to unpack (expected 1, got 0)"

/-! ### Options of the check -/

inductive Switch where
  | help
  | policyFile
  | title
  | lockfile
  | format
  | failOn
  | comment
  | quiet
  | verbose
  deriving DecidableEq, Repr

def Switch.names : List (String × Switch) :=
  [("-h", .help), ("--help", .help), ("--config", .policyFile), ("--title", .title), ("--lockfile", .lockfile),
    ("--format", .format), ("--fail-on", .failOn), ("--comment", .comment), ("-q", .quiet), ("--quiet", .quiet),
    ("-v", .verbose), ("--verbose", .verbose)]

def Switch.takesValue : Switch → Bool
  | .policyFile | .title | .lockfile | .format | .failOn => true
  | _ => false

def checkKnown : List Known := Switch.names.map fun p => ⟨p.1.toList, p.2.takesValue⟩

def Switch.ofName? (name : List Char) : Option Switch := Switch.names.lookup (String.ofList name)

/-- What has been read of the arguments of a check. -/
structure Reading where
  options : Options := {}
  /-- Whether the root of the checkout was given or passed over. -/
  hasPath : Bool := false
  /-- Whether an argument was met that has no meaning. -/
  hasExtra : Bool := false

/-- Why reading ends before the last argument. -/
inductive Stop where
  | misused
  | valueLost
  | help

/-- Applies an option; quiet and verbose exclude each other. -/
def Reading.apply (r : Reading) (s : Switch) (value : String) : Except Stop Reading :=
  let set (o : Options) : Except Stop Reading := .ok { r with options := o }
  let o := r.options
  match s with
  | .help => .error .help
  | .policyFile => set { o with policyFile := some value }
  | .title => set { o with title := some value }
  | .lockfile => set { o with lockfile := some value }
  | .format =>
    match Format.ofLabel? value with
    | some f => set { o with format := f }
    | none => .error .misused
  | .failOn => if value = "warn" ∨ value = "error" then set { o with failOn := some value } else .error .misused
  | .comment => set { o with comment := true }
  | .quiet => if o.verbosity = .verbose then .error .misused else set { o with verbosity := .quiet }
  | .verbose => if o.verbosity = .quiet then .error .misused else set { o with verbosity := .verbose }

/-- Applies options without values, in order. -/
def Reading.applyAll (r : Reading) (uses : List Use) : Except Stop Reading :=
  uses.foldlM (fun r u =>
    match Switch.ofName? u.name with
    | some s => r.apply s ""
    | none => .error .misused) r

def Reading.applyValue (r : Reading) (name value : List Char) : Except Stop Reading :=
  match Switch.ofName? name with
  | some s => r.apply s (String.ofList value)
  | none => .error .misused

/-- Applies an option that is written with a value of its own. -/
def Reading.applyWritten (r : Reading) (k : Known) (value : List Char) : Except Stop Reading :=
  if k.takesValue then (if value = ['-', '-'] then .error .valueLost else r.applyValue k.name value)
  else if isShort k.name && !value.isEmpty then
    match cluster checkKnown k.name value with
    | some uses => r.applyAll uses
    | none => .error .misused
  else .error .misused

/-- Takes the root of the checkout. -/
def Reading.takePath (r : Reading) (cs : List Char) : Reading :=
  { r with options := { r.options with path := String.ofList cs }, hasPath := true }

/-- Reads the arguments of a check.  The root may have a mark before or after it; a mark alone passes it
over. -/
def Reading.read (r : Reading) : List Argument → Except Stop Reading
  | [] => .ok r
  | .unknown :: rest => ({ r with hasExtra := true } : Reading).read rest
  | .option k (some value) :: rest => do (← r.applyWritten k value).read rest
  | .option k none :: .word value :: rest =>
    if k.takesValue then do (← r.applyValue k.name value).read rest
    else do (← r.applyAll [⟨k.name, none⟩]).read (.word value :: rest)
  | .option k none :: rest =>
    if k.takesValue then .error .misused else do (← r.applyAll [⟨k.name, none⟩]).read rest
  | .word cs :: .mark :: rest =>
    if r.hasPath then ({ r with hasExtra := true } : Reading).read (.mark :: rest)
    else (r.takePath cs).read rest
  | .word cs :: rest =>
    if r.hasPath then ({ r with hasExtra := true } : Reading).read rest else (r.takePath cs).read rest
  | .mark :: .word cs :: rest =>
    if r.hasPath then ({ r with hasExtra := true } : Reading).read (.word cs :: rest)
    else (r.takePath cs).read rest
  | .mark :: rest =>
    if r.hasPath then ({ r with hasExtra := true } : Reading).read rest
    else ({ r with hasPath := true } : Reading).read rest
termination_by args => args.length

/-- Reads the arguments that follow the command. -/
def readCheck (args : List (List Char)) (hasExtra : Bool) : Except UsageFault Request :=
  match classifyAll checkKnown args with
  | none => .error .misused
  | some arguments =>
    match Reading.read { hasExtra := hasExtra } arguments with
    | .ok r => if r.hasExtra then .error .misused else .ok (.check r.options)
    | .error .misused => .error .misused
    | .error .valueLost => .error .valueLost
    | .error .help => .ok .showHelp

/-! ### Options before the command -/

/-- What is known of the options before the command. -/
def toolKnown : List Known := [⟨['-', 'h'], false⟩, ⟨"--help".toList, false⟩, ⟨"--version".toList, false⟩]

def checkName : List Char := "check".toList

def answerTo (name : List Char) : Request := if name = "--version".toList then .showVersion else .showHelp

/-- Reads what stands before the command, and then the command. -/
def readFrom (hasExtra : Bool) : List (List Char) → Except UsageFault Request
  | [] => .error .misused
  | cs :: rest =>
    match classify toolKnown cs with
    | none => .error .misused
    | some .mark => .error .misused
    | some (.word name) => if name = checkName then readCheck rest hasExtra else .error .misused
    | some .unknown => readFrom true rest
    | some (.option k none) => .ok (answerTo k.name)
    | some (.option k (some value)) =>
      if isShort k.name && !value.isEmpty && (cluster toolKnown k.name value).isSome then .ok .showHelp
      else .error .misused

/-- What a command line asks for. -/
def read (args : List String) : Except UsageFault Request :=
  let args := args.map String.toList
  if (classifyAll toolKnown args).isNone then .error .misused else readFrom false args

end MergeGate.Command
