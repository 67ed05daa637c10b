import MergeGate.Check

/-
  MergeGate/Main.lean
  ===================
  **The command line tool.**  It reads its arguments, the variables and those files that a run looks at,
  lets `Check` judge, prints the report and returns the exit code.  Requests go through a transport
  that it is given; the tool on its own has none, and answers each request as refused.
-/

namespace MergeGate.Main

open MergeGate.Discussion

/-- What carries a request to the server. -/
abbrev Transport := Access → Discussion.Request → IO Response

def offline : Transport := fun _ _ => return ⟨503, .text "no connection"⟩

/-- The variables that a run looks at. -/
def variableNames : List String :=
  [Event.pathVariable, Event.repositoryVariable, Event.nameVariable, Check.tokenVariable, Check.serverVariable,
    Check.policyVariable]

/-- The variables of the process. -/
def settings : IO (List (String × String)) :=
  variableNames.filterMapM fun name => do return (← IO.getEnv name).map fun value => (name, value)

/-- What the system says with an error, if that is about something that is there. -/
def refusal? : IO.Error → Option Refusal
  | .permissionDenied .. => some .denied
  | .hardwareFault code details => some ⟨code.toNat, details⟩
  | _ => none

/-- The folder under a path; one that may not be searched is barred. -/
def folderEntry (p : Path) : IO (Option Entry) := do
  try
    discard <| IO.FS.realPath (p.text ++ "/.")
    return some .folder
  catch e => return (refusal? e).map fun _ => .barred

/-- The file under a path; one that cannot be read is sealed. -/
def fileEntry (p : Path) : IO (Option Entry) := do
  try
    return some (.file (← IO.FS.readBinFile p.text).toList)
  catch e => return (refusal? e).map .sealed

/-- The folders on the way along a path, and the file at its end. -/
def survey (p : Path) : IO (List (List (List Char) × Entry)) := do
  let steps := (List.range (p.names.length + 1)).map fun k => Path.mk .root (p.names.take k)
  steps.filterMapM fun q => do
    let entry ←
      match ← folderEntry q with
      | some e => pure (some e)
      | none => fileEntry q
    return entry.map fun e => ((Path.resolve ⟨.root, []⟩ q).names, e)

/-- The surroundings with what lies under some paths. -/
def look (s : Surroundings) (ps : List Path) : IO Surroundings := do
  let entries ← ps.mapM fun p => survey (s.here.join p)
  return { s with files := ⟨s.files.entries ++ entries.flatten⟩ }

/-- The surroundings of a run: first the files it names, then those the policy names. -/
def surroundings (o : Command.Options) : IO Surroundings := do
  let here := Path.ofString (← IO.currentDir).toString
  let s : Surroundings := { here := here, files := {}, settings := ← settings }
  let s ← look s (Check.paths o s)
  look s (Check.paths o s)

/-- Takes an errand through its stages. -/
partial def converse (send : Discussion.Request → IO Response) (e : Errand) (stage : Stage) (x : Exchange) :
    IO Exchange := do
  match stage, stage.request? with
  | .over outcome, _ => return { x with outcome := outcome }
  | stage, some request => do
    let (next, notes) := e.advance stage (← send request)
    converse send e next { x with requests := x.requests ++ [request], notes := x.notes ++ notes }
  | _, none => return x

/-- Prints a text, or says why it cannot be printed. -/
def print? (text : String) : IO (Except Check.Failure Unit) := do
  try
    IO.print text
    return .ok ()
  catch e => return .error (.output (toString e))

def check (transport : Transport) (o : Command.Options) : IO UInt32 := do
  let s ← surroundings o
  let outcome ←
    match Check.judge o s with
    | (.error f, notes) => pure (Check.failed o notes f)
    | (.ok judgement, notes) => do
      match ← print? (judgement.output o) with
      | .error f => pure (Check.failed o notes f)
      | .ok () => do
        let exchange ←
          match judgement.errand? with
          | none => pure {}
          | some (order, errand) => converse (transport order.access) errand errand.start {}
        pure (judgement.finish o notes exchange)
  outcome.log.forM fun line => IO.eprintln line
  return outcome.exit.toUInt32

/-- Answers a command line. -/
def run (transport : Transport) (args : List String) : IO UInt32 := do
  match Command.read args with
  | .ok (.check o) => check transport o
  | .ok .showVersion => do
    IO.println (Tool.name ++ " " ++ Tool.packaged)
    return 0
  | .ok .showHelp => do
    IO.println Command.UsageFault.misused.message
    return 0
  | .error f => do
    IO.eprintln f.message
    return 2

end MergeGate.Main

/-- The command line tool without a connection. -/
def main (args : List String) : IO UInt32 := MergeGate.Main.run MergeGate.Main.offline args
