import MergeGate.Checkout
import MergeGate.Command.Options
import MergeGate.Discussion.Errand
import MergeGate.Evaluation
import MergeGate.Policy.Reader
import MergeGate.Report.Comment
import MergeGate.Report.Document
import MergeGate.Tool

/-
  MergeGate/Check.lean
  ====================
  **A run of the check.**  A run reads the event and the policy of a checkout, evaluates the policy and
  shows the report; if it is asked to, it also keeps a comment on the pull request up to date.

  A run has three parts.  `Check.judge` does all that needs neither output nor server: it ends in a
  judgement or in a failure, before anything is printed.  Then the report is printed
  (`Judgement.print`), which fails if the output refuses its text.  Only then the server is asked, if
  there is something to write; `Judgement.finish` gives the outcome when the exchange with it is over.
-/

namespace MergeGate

open MergeGate.Text MergeGate.Command

namespace Check

/-- Why a run does not come to its end. -/
inductive Failure where
  | root (f : RootFault)
  | event (f : EventFault)
  | credential (name : String)
  | policy (f : Policy.Failure)
  | path (f : PathFault)
  | pattern (c : Pattern.Cause)
  | output (message : String)
  | discussion (f : Discussion.Failure)

/-- The sentence for a credential that is not there. -/
def credentialMissing (name : String) : String := name ++ " missing"

/-- The sentence that tells of a failure. -/
def Failure.message : Failure → String
  | .root f => f.message
  | .event f => f.message
  | .credential name => credentialMissing name
  | .policy f => f.message
  | .path f => f.message
  | .pattern c => c.label
  | .output message => message
  | .discussion f => f.message

/-- A step of a run, which may leave notes even if it fails. -/
abbrev Step := ExceptT Failure (StateM (List Note))

namespace Step

def leave (notes : List Note) : Step Unit := modify fun before => before ++ notes

/-- Does what may fail in its own way. -/
def lift {ε α : Type} (failure : ε → Failure) (x : Except ε α) : Step α :=
  match x with
  | .ok a => return a
  | .error e => throw (failure e)

end Step

/-! ### Variables -/

def tokenVariable : String := "GITHUB_TOKEN"

def serverVariable : String := "GITHUB_API_URL"

def policyVariable : String := "INPUT_CONFIG_PATH"

/-- The credential in a variable, which has to be there and not empty. -/
def credential (settings : List (String × String)) (name : String) : Except String String :=
  match settings.lookup name with
  | none => .error name
  | some token => if token = "" then .error name else .ok token

/-! ### Judging -/

/-- A comment that is to be kept up to date. -/
structure CommentOrder where
  access : Discussion.Access
  issue : Discussion.Issue

/-- What a run comes to before the server is asked. -/
inductive Judgement where
  /-- There is no pull request to write to. -/
  | skipped
  | judged (report : Report) (verdict : Verdict) (order : Option CommentOrder)

/-- The comment that is to be written, none if the event is none of a pull request. -/
def orderOf (s : Surroundings) (token : String) (event : Option Event) : Option CommentOrder := do
  let event ← event
  let pull ← event.pullRequest
  let repository ← event.repository.filter (· ≠ "")
  let access : Discussion.Access := ⟨filledOr (s.valueOf? serverVariable) Discussion.defaultServer, token⟩
  return ⟨access, repository, pull.number⟩

/-- The title that is judged. -/
def titleOf (o : Options) (event : Option Event) : String :=
  match o.title with
  | some title => title
  | none => ((event.bind Event.pullRequest).map PullRequest.title).getD ""

/-- The lock manifest that is read. -/
def lockfileOf (root : Path) (o : Options) (policy : Option Policy) : Path :=
  root.join (Path.ofString (filledOr o.lockfile ((policy.map Policy.lockfile).getD defaultLockfile)))

/-- Whether a required file exists; one that cannot be looked for counts as absent. -/
def hasFile (s : Surroundings) (root : Path) (name : String) : Bool :=
  match s.holds (Checkout.required root name) with
  | .ok b => b
  | .error _ => false

/-- The first required file that cannot be looked for, if the rule on files is reached. -/
def unsearchable? (s : Surroundings) (root : Path) (policy : Option Policy) : Option PathFault := do
  let policy ← policy
  -- with a title pattern at fault no file is looked for
  let isReached := match policy.titlePattern.map fun p => Pattern.ofText p.toList with
    | some (.error _) => false
    | _ => true
  if isReached then
    policy.requiredFiles.findSome? fun name =>
      match s.holds (Checkout.required root name) with
      | .ok _ => none
      | .error f => some f
  else none

/-- The policy file that is read: the one that is asked for, or the one in a variable, or the usual one. -/
def policyPath (o : Options) (s : Surroundings) (root : Path) : Path :=
  Checkout.policyFile root ((o.policyFile.filter (· ≠ "")).or (s.valueOf? policyVariable))

def readPolicy (s : Surroundings) (path : Path) : Step (Option Policy) := do
  let octets ← Step.lift .path (s.octets? path)
  let (policy, notes) ← Step.lift .policy (Policy.ofFile .utf8 path octets)
  Step.leave notes
  return policy

/-- What an evaluation is told of a checkout whose lock manifest holds some octets. -/
def factsOf (o : Options) (s : Surroundings) (root : Path) (event : Option Event) (lockfile : Path)
    (octets : Option (List UInt8)) : Facts :=
  { title := some (titleOf o event), fileExists := hasFile s root, manifest := .content (octets.map .octets),
    manifestSource := some (Checkout.shown root lockfile), failOn := o.failOn }

/-- The report on an evaluation under the policy file of a checkout. -/
def reportOf (o : Options) (s : Surroundings) (root : Path) (e : Evaluation) : Report :=
  .ofVerdict Tool.name Tool.packaged e.verdict e.violations (some (Checkout.shown root (policyPath o s root))) []

/-- Evaluates a policy and reports on it. -/
def reportOn (o : Options) (s : Surroundings) (root : Path) (event : Option Event) : Step (Report × Verdict) := do
  let path := policyPath o s root
  let policy ← readPolicy s path
  Step.leave (if policy.isNone then [.nothingEnforced (Checkout.shown root path)] else [])
  let lockfile := lockfileOf root o policy
  let octets ← Step.lift .path (s.octets? lockfile)
  let facts := factsOf o s root event lockfile octets
  let evaluation ← Step.lift .pattern (Evaluation.evaluate Evaluation.defaultAbsence policy facts)
  -- an evaluation cannot fail over a file, so one that cannot be looked for is found out here
  match unsearchable? s root policy with
  | some f => throw (.path f)
  | none => do
    Step.leave evaluation.notes
    return (reportOf o s root evaluation, evaluation.verdict)

def judging (o : Options) (s : Surroundings) : Step Judgement := do
  let root ← Step.lift .root (Checkout.root s o.path)
  let (event, notes) ← Step.lift .event (Event.ofSurroundings s)
  Step.leave notes
  -- the credential comes first: without one the run fails, also where it would be skipped
  if o.comment then
    let token ← Step.lift .credential (credential s.settings tokenVariable)
    match orderOf s token event with
    | none => return .skipped
    | some order =>
      let (report, verdict) ← reportOn o s root event
      return .judged report verdict (some order)
  else
    let (report, verdict) ← reportOn o s root event
    return .judged report verdict none

/-- The judgement on a checkout, and the notes on the way. -/
def judge (o : Options) (s : Surroundings) : Except Failure Judgement × List Note := (judging o s).run []

/-! ### Outcomes -/

/-- What a run prints to.  An output takes a text whole, or refuses it and says why: it may be closed, or
have no way to write some character.  A half of a pair of codes that stands alone in a document is one
that most outputs refuse; `Json` and `Yaml` put U+FFFD in its place. -/
structure Output where
  refusal? : String → Option String

/-- The output that takes every text. -/
def Output.willing : Output := ⟨fun _ => none⟩

/-- What a run does: it prints, or it asks the server. -/
inductive Effect where
  | printed (text : String)
  | asked (request : Discussion.Request)

/-- The text that is printed. -/
def Effect.text? : Effect → Option String
  | .printed text => some text
  | .asked _ => none

/-- The request that is made. -/
def Effect.request? : Effect → Option Discussion.Request
  | .printed _ => none
  | .asked request => some request

/-- What is left of a run: its exit code, what it did in order, and the lines of its log. -/
structure Outcome where
  exit : Nat
  effects : List Effect := []
  log : List String := []

/-- What a run printed. -/
def Outcome.output (x : Outcome) : String := String.join (x.effects.filterMap Effect.text?)

def Outcome.requests (x : Outcome) : List Discussion.Request := x.effects.filterMap Effect.request?

def failureExit : Nat := 2

/-- The least weight of the notes that are shown. -/
def weightOf : Verbosity → Weight
  | .quiet => .grave
  | .normal => .warning
  | .verbose => .detail

/-- The lines of the notes that are shown. -/
def shownNotes (o : Options) (notes : List Note) : List String :=
  (notes.filter (Note.isShown (weightOf o.verbosity))).map Note.line

/-- The line that tells of a failure. -/
def failureLine (f : Failure) : String := "policygate: error: " ++ f.message

/-- The line that tells of a run without a pull request. -/
def skippedLine : String := "policygate: not a pull request event; skipping comment"

/-- The lines that tell of a failing verdict. -/
def verdictLines (v : Verdict) : List String :=
  if v.failing then ["policygate: policy check failed (fail_on=" ++ v.threshold.label ++ ")"] else []

def printed (o : Options) (verdict : Verdict) (report : Report) : String :=
  match o.format with
  | .json => report.toDocument none
  | .github => String.ofList (report.commentWith verdict.status Report.commentLimit)
  | .text => String.ofList (report.textWith verdict.status o.verbosity)

/-- The errand of a comment that is to be kept up to date. -/
def errandOf (order : CommentOrder) (verdict : Verdict) (report : Report) : Discussion.Errand :=
  .keep order.issue (String.ofList (report.commentWith verdict.status Report.commentLimit)) commentMarker

/-- The errand that a judgement asks for. -/
def Judgement.errand? : Judgement → Option (CommentOrder × Discussion.Errand)
  | .judged report verdict (some order) => some (order, errandOf order verdict report)
  | _ => none

def Judgement.output (o : Options) : Judgement → String
  | .skipped => ""
  | .judged report verdict _ => printed o verdict report

/-- Prints what a judgement has to show; the output may refuse it. -/
def Judgement.print (o : Options) (output : Output) (j : Judgement) : Except Failure Unit :=
  match j with
  | .skipped => .ok ()
  | .judged _ _ _ =>
    match output.refusal? (j.output o) with
    | some message => .error (.output message)
    | none => .ok ()

theorem Judgement.print_willing (o : Options) (j : Judgement) : j.print o .willing = .ok () := by
  cases j <;> rfl

/-- The outcome of a run when its exchange with the server is over; without an errand there is none. -/
def Judgement.finish (o : Options) (notes : List Note) (exchange : Discussion.Exchange) (j : Judgement) : Outcome :=
  match j with
  | .skipped => { exit := 0, log := shownNotes o notes ++ [skippedLine] }
  | .judged _ verdict none =>
    { exit := verdict.exitCode, effects := [.printed (j.output o)],
      log := shownNotes o notes ++ verdictLines verdict }
  | .judged _ verdict (some _) =>
    let effects := .printed (j.output o) :: exchange.requests.map .asked
    let log := shownNotes o (notes ++ exchange.notes)
    match exchange.outcome with
    | .ok _ => { exit := verdict.exitCode, effects := effects, log := log ++ verdictLines verdict }
    | .error f => { exit := failureExit, effects := effects, log := log ++ [failureLine (.discussion f)] }

/-- The outcome of a run that failed before anything was printed. -/
def failed (o : Options) (notes : List Note) (f : Failure) : Outcome :=
  { exit := failureExit, log := shownNotes o notes ++ [failureLine f] }

/-- Runs a check; the server gives responses one after the other. -/
def run (o : Options) (s : Surroundings) (responses : List Discussion.Response) (output : Output := .willing) :
    Outcome :=
  match judge o s with
  | (.error f, notes) => failed o notes f
  | (.ok judgement, notes) =>
    match judgement.print o output with
    | .error f => failed o notes f
    | .ok () =>
      let exchange := (judgement.errand?.map fun p => p.2.run responses).getD {}
      judgement.finish o notes exchange

/-- The paths that a run looks at, as far as the surroundings tell them; required files are known once the
policy file is. -/
def paths (o : Options) (s : Surroundings) : List Path :=
  let root := Path.resolve s.here (Path.ofString o.path)
  let file := policyPath o s root
  let policy :=
    match ((readPolicy s file).run []).1 with
    | .ok policy => policy
    | .error _ => none
  let event := (s.filledValue? Event.pathVariable).toList.map Path.ofString
  let required := ((policy.map Policy.requiredFiles).getD []).map (Checkout.required root)
  root :: file :: lockfileOf root o policy :: (event ++ required)

end Check

end MergeGate
