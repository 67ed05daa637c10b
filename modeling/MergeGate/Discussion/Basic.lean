import MergeGate.Datum
import MergeGate.Discussion.Address
import MergeGate.Event
import MergeGate.Json.Writer

/-
  MergeGate/Discussion/Basic.lean
  ===============================
  **The discussion of a pull request.**  A server keeps the comments on a pull request.  It lists them page
  by page, takes new ones and replaces the text of those it has.  A `Request` asks for one of these,
  a `Response` has a status and JSON or a text; a status of 400 or more is a refusal.
-/

namespace MergeGate.Discussion

open MergeGate.Text

/-- A pull request or an issue of a repository. -/
structure Issue where
  repository : String
  number : IssueNumber
  deriving DecidableEq, Repr

/-- How many comments a full page has. -/
def pageSize : Nat := 100

/-- What is asked of the server. -/
inductive Request where
  /-- A page of the comments, counted from one. -/
  | page (issue : Issue) (number : Nat)
  /-- A new comment. -/
  | create (issue : Issue) (body : String)
  /-- Another text for a comment. -/
  | replace (repository : String) (comment : Json) (body : String)

namespace Request

def method : Request → String
  | .page .. => "GET"
  | .create .. => "POST"
  | .replace .. => "PATCH"

def commentsPath (issue : Issue) : String :=
  "/repos/" ++ issue.repository ++ "/issues/" ++ issue.number.text ++ "/comments"

def path : Request → String
  | .page issue _ => commentsPath issue
  | .create issue _ => commentsPath issue
  | .replace repository comment _ => "/repos/" ++ repository ++ "/issues/comments/" ++ comment.plainText

def query? : Request → Option String
  | .page _ number => some ("per_page=" ++ toString pageSize ++ "&page=" ++ toString number)
  | _ => none

def payload? : Request → Option Json
  | .page .. => none
  | .create _ body => some (.object [("body", .text body)])
  | .replace _ _ body => some (.object [("body", .text body)])

def isWrite : Request → Bool
  | .page .. => false
  | _ => true

end Request

/-! ### Access -/

/-- The server that is asked unless another one is named. -/
def defaultServer : String := "https://api.github.com"

/-- A server and the credential that it is shown. -/
structure Access where
  server : String := defaultServer
  token : String

namespace Access

/-- The server without the slashes at its end. -/
def base (a : Access) : List Char := (a.server.toList.reverse.dropWhile (· == '/')).reverse

def address (a : Access) (r : Request) : String :=
  String.ofList (Address.normal (a.base ++ r.path.toList) (r.query?.map String.toList))

/-- How the credential is shown. -/
def authorization (a : Access) : String := "Bearer " ++ a.token

/-- The form of the answers that is asked for. -/
def accepted : String := "application/vnd.github+json"

/-- The version of the server's interface that is asked for. -/
def interface : String := "2022-11-28"

end Access

/-! ### Responses -/

/-- What a response carries. -/
inductive Payload where
  | json (v : Json)
  | text (s : String)

/-- An answer of the server. -/
structure Response where
  status : Nat
  payload : Payload

/-- The text of what a response carries. -/
def Payload.plain : Payload → String
  | .json v => v.writeCompact
  | .text s => s

/-- The JSON that a response carries. -/
def Payload.value : Payload → Except Json.ReadError Json
  | .json v => .ok v
  | .text s =>
    match s.toList with
    | '\ufeff' :: cs => Json.read cs
    | cs => Json.read cs

/-- Why a request did not come to its end. -/
inductive Failure where
  | refused (status : Nat) (text : String)
  | notJson (error : Json.ReadError)
  /-- A comment has no number. -/
  | unnumbered
  /-- The body of a comment is of a kind in which nothing can be looked for. -/
  | notSearchable (kind : String)
  /-- There was no response. -/
  | unanswered

/-- The sentence that tells of a failure. -/
def Failure.message : Failure → String
  | .refused status text => "GitHub API error " ++ toString status ++ ": " ++ text
  | .notJson error => error.message
  | .unnumbered => quoted "id"
  | .notSearchable kind => "argument of type '" ++ kind ++ "' is not iterable"
  | .unanswered => "no response"

/-- The JSON of a response that is no refusal. -/
def Response.value (r : Response) : Except Failure Json :=
  if 400 ≤ r.status then .error (.refused r.status r.payload.plain) else r.payload.value.mapError .notJson

theorem Response.value_of_refusal (r : Response) (h : 400 ≤ r.status) :
    r.value = .error (.refused r.status r.payload.plain) := by
  simp [Response.value, h]

end MergeGate.Discussion
