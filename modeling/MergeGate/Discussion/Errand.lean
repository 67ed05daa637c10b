import MergeGate.Discussion.Basic

/-
  MergeGate/Discussion/Errand.lean
  ================================
  **Errands to the server.**  An `Errand` is what the gate wants of a discussion: the list of all comments, a
  new comment, another text for a comment, or one comment that is kept up to date.  The last of
  these looks for the first comment that holds a marker, replaces its text, and writes a new comment
  if there is none.

  An errand goes through stages, each of which but the last waits for the response to one request.
  `Errand.advance` is the step that a response brings; `Errand.run` takes responses one after the
  other until the errand is over.  All pages are read before anything is written.
-/

namespace MergeGate.Discussion

open MergeGate.Text

inductive Errand where
  | list (issue : Issue)
  | create (issue : Issue) (body : String)
  | replace (repository : String) (comment : Json) (body : String)
  /-- The first comment with a marker gets a text; without one there is a new comment. -/
  | keep (issue : Issue) (body marker : String)

inductive Stage where
  /-- A page is awaited; the comments of the pages before are known. -/
  | reading (issue : Issue) (page : Nat) (found : List Json)
  /-- The response to a writing request is awaited. -/
  | writing (request : Request)
  | over (outcome : Except Failure Json)

/-- The request whose response a stage awaits. -/
def Stage.request? : Stage → Option Request
  | .reading issue page _ => some (.page issue page)
  | .writing request => some request
  | .over _ => none

def Errand.start : Errand → Stage
  | .list issue => .reading issue 1 []
  | .create issue body => .writing (.create issue body)
  | .replace repository comment body => .writing (.replace repository comment body)
  | .keep issue _ _ => .reading issue 1 []

/-! ### Comments -/

/-- Whether a listed item is a comment. -/
def isComment : Json → Bool
  | .object _ => true
  | _ => false

/-- The comments of a page, and whether another page may follow; a page that is no list is the last one. -/
def readPage : Json → List Json × Bool
  | .list items => (items.filter isComment, pageSize ≤ items.length)
  | _ => ([], false)

/-- The kind of a value in which nothing can be looked for. -/
def kindOf : Json → String
  | .bool _ => "bool"
  | .number _ => "float"
  | _ => "int"

/-- Whether a comment holds a marker: in its text, as an item or as a name. -/
def holdsMarker (marker : String) (comment : Json) : Except Failure Bool :=
  let body := (comment.get? "body").getD .null
  if body.isTruthy then
    match body with
    | .text s => .ok (holds marker.toList s.toList)
    | .list items => .ok (items.any fun v => v.text? == some marker)
    | .object ms => .ok (Json.Members.get? ms marker).isSome
    | v => .error (.notSearchable (kindOf v))
  -- null, zero and what is empty are searched as the empty text, which holds only the empty marker
  else .ok (marker = "")

/-- The number of the first comment that holds a marker. -/
def target? (marker : String) : List Json → Except Failure (Option Json)
  | [] => .ok none
  | c :: cs => do
    if ← holdsMarker marker c then
      match c.get? "id" with
      | some id => return some id
      | none => throw .unnumbered
    else target? marker cs

/-! ### Stages -/

/-- What follows when all comments are known. -/
def Errand.afterReading (e : Errand) (found : List Json) : Stage × List Note :=
  match e with
  | .keep issue body marker =>
    match target? marker found with
    | .error f => (.over (.error f), [])
    | .ok (some id) =>
      (.writing (.replace issue.repository id body),
        [.commentUpdated id.plainText issue.repository issue.number.figures])
    | .ok none => (.writing (.create issue body), [.commentCreated issue.repository issue.number.figures])
  | _ => (.over (.ok (.list found)), [])

/-- The stage that a response brings, and what is noted then. -/
def Errand.advance (e : Errand) (stage : Stage) (response : Response) : Stage × List Note :=
  match stage with
  | .reading issue page found =>
    match response.value with
    | .error f => (.over (.error f), [])
    | .ok v =>
      let (comments, goesOn) := readPage v
      if goesOn then (.reading issue (page + 1) (found ++ comments), []) else e.afterReading (found ++ comments)
  | .writing _ => (.over response.value, [])
  | .over outcome => (.over outcome, [])

/-- What passes between the gate and the server. -/
structure Exchange where
  requests : List Request := []
  notes : List Note := []
  outcome : Except Failure Json := .error .unanswered
  /-- The responses that were not asked for. -/
  left : List Response := []

/-- Takes an errand through its stages. -/
def Errand.runFrom (e : Errand) (stage : Stage) (responses : List Response) : Exchange :=
  match stage, responses with
  | .over outcome, rest => { outcome := outcome, left := rest }
  | stage, [] => { requests := stage.request?.toList }
  | stage, response :: rest =>
    let (next, notes) := e.advance stage response
    let later := e.runFrom next rest
    { later with requests := stage.request?.toList ++ later.requests, notes := notes ++ later.notes }

def Errand.run (e : Errand) (responses : List Response) : Exchange := e.runFrom e.start responses

theorem Errand.runFrom_over (e : Errand) (outcome : Except Failure Json) (rest : List Response) :
    e.runFrom (.over outcome) rest = { outcome := outcome, left := rest } := by
  cases rest <;> rfl

theorem Errand.runFrom_nil (e : Errand) (stage : Stage) :
    (e.runFrom stage []).requests = stage.request?.toList := by
  cases stage <;> rfl

end MergeGate.Discussion
