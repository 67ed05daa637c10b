import MergeGate.FileTree
import MergeGate.Json.Reader
import MergeGate.Note
import MergeGate.Text.Digit

/-
  MergeGate/Event.lean
  ====================
  **The event of a run.**  A run may be started by an event of a repository, which a file tells of.  If
  the event is one of a pull request, its number and title are known.  The name of the repository
  and of the event may also be given by variables, which go before the file.

  Whatever is not of the expected form is left out; a file that is missing or is not JSON is noted.
  A file that cannot be read, or whose JSON is nested too deep, is a fault.
-/

namespace MergeGate

open MergeGate.Text

/-- The number of a pull request; a truth value counts as one. -/
inductive IssueNumber where
  | figure (n : Int)
  | truth (b : Bool)
  deriving DecidableEq, Repr

namespace IssueNumber

def toJson : IssueNumber → Json
  | .figure n => .int n
  | .truth b => .bool b

def ofJson? : Json → Option IssueNumber
  | .int n => some (.figure n)
  | .bool b => some (.truth b)
  | _ => none

/-- The number as a part of addresses. -/
def text : IssueNumber → String
  | .figure n => String.ofList (integer n)
  | .truth b => Note.truthLabel b

def figures : IssueNumber → String
  | .figure n => String.ofList (integer n)
  | .truth b => if b then "1" else "0"

end IssueNumber

structure PullRequest where
  number : IssueNumber
  title : String
  deriving DecidableEq, Repr

/-- What is known of the event of a run. -/
structure Event where
  repository : Option String
  name : Option String
  pullRequest : Option PullRequest
  deriving DecidableEq, Repr

/-- What keeps the file of an event from being read. -/
inductive EventFault where
  | path (f : PathFault)
  | tooDeep (inObject : Bool)
  deriving Repr

/-- The sentence that tells of a fault. -/
def EventFault.message : EventFault → String
  | .path f => f.message
  | .tooDeep inObject => (Json.ReadError.tooDeep inObject).message

namespace Event

/-- The variable that names the file of the event. -/
def pathVariable : String := "GITHUB_EVENT_PATH"

/-- The variable that names the repository. -/
def repositoryVariable : String := "GITHUB_REPOSITORY"

def nameVariable : String := "GITHUB_EVENT_NAME"

def repositoryOf (payload : Json) : Option String :=
  ((payload.get? "repository").bind fun r => r.get? "full_name").bind Json.text?

def pullRequestOf (payload : Json) : Option PullRequest := do
  let pull ← payload.get? "pull_request"
  let number ← (← pull.get? "number") |> IssueNumber.ofJson?
  return ⟨number, ((pull.get? "title").bind Json.text?).getD ""⟩

def ofPayload (payload : Json) (repository name : Option String) : Event :=
  ⟨repository.or (repositoryOf payload), name, pullRequestOf payload⟩

/-- The event that the octets of a file tell of, if they are an object. -/
def ofOctets (s : Surroundings) (path : Path) (octets : List UInt8) : Except EventFault (Option Event × List Note) :=
  let unreadable : Except EventFault (Option Event × List Note) := .ok (none, [.eventUnreadable path.text])
  match Encoding.utf8.decode octets with
  | .error _ => unreadable
  | .ok cs =>
    match Json.read cs with
    | .ok (.object ms) =>
      .ok (some (ofPayload (.object ms) (s.filledValue? repositoryVariable) (s.filledValue? nameVariable)), [])
    | .ok _ => .ok (none, [])
    | .error (.tooDeep inObject) => .error (.tooDeep inObject)
    | .error _ => unreadable

/-- The event of a run, and what is noted while it is read. -/
def ofSurroundings (s : Surroundings) : Except EventFault (Option Event × List Note) :=
  match s.filledValue? pathVariable with
  | none => .ok (none, [])
  | some name =>
    let path := Path.ofString name
    match s.octets? path with
    | .error f => .error (.path f)
    | .ok none => .ok (none, [.eventMissing path.text])
    | .ok (some octets) => ofOctets s path octets

end Event

end MergeGate
