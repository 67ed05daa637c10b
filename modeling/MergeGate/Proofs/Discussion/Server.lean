import MergeGate.Discussion.Errand
import Mathlib.Data.List.Forall2
import Mathlib.Data.List.Infix
import Mathlib.Data.Fintype.EquivFin
import Mathlib.Data.Int.Basic

/-
  MergeGate/Proofs/Discussion/Server.lean
  =======================================
  **A server that keeps its word.**  The gate knows a discussion only through responses.  Here a
  server keeps the comments on one issue in a list (`Comment`), and `Serves` says which responses it
  may give to a request and what the comments are afterwards: a page is a slice of `pageSize`
  comments, a new comment goes to the end with a number that no other has, another text replaces
  the old one in its place, and any other request is refused.

  The gate asks for page after page.  While the comments stay the same, those found so far are the
  first pages of them, and a page that is not full is the last (`Errand.advance_page`).
-/

namespace MergeGate.Text

theorem dropLead_isSome_iff (pat cs : List Char) : (dropLead pat cs).isSome ↔ pat <+: cs := by
  induction pat generalizing cs with
  | nil => simp [dropLead]
  | cons p pat ih =>
    cases cs with
    | nil => simp [dropLead]
    | cons c cs => by_cases hp : p = c <;> simp [dropLead, hp, ih]

theorem holds_eq_true_iff (pat cs : List Char) : holds pat cs = true ↔ pat <:+: cs := by
  induction cs with
  | nil => simp [holds]
  | cons c cs ih => rw [holds, Bool.or_eq_true, dropLead_isSome_iff, ih, List.infix_cons_iff]

end MergeGate.Text

namespace MergeGate.Discussion

open MergeGate.Text

/-! ### Comments and markers -/

/-- A comment as the server keeps it. -/
structure Comment where
  id : Int
  body : Option String
  deriving DecidableEq, Repr

/-- A comment holds a marker if its text does; one without a text is as good as empty. -/
def Comment.Holds (marker : String) (c : Comment) : Prop :=
  marker.toList <:+: (c.body.getD "").toList

instance (marker : String) (c : Comment) : Decidable (c.Holds marker) :=
  decidable_of_iff _ (holds_eq_true_iff marker.toList (c.body.getD "").toList)

/-- A listed value shows a comment: it has its number, and its text or null or nothing at all. -/
structure Shows (v : Json) (c : Comment) : Prop where
  id : v.get? "id" = some (.int c.id)
  body : (v.get? "body").getD .null = c.body.elim .null .text

def Comment.toJson (c : Comment) : Json := .object [("id", .int c.id), ("body", c.body.elim .null .text)]

theorem Comment.shows_toJson (c : Comment) : Shows c.toJson c :=
  ⟨rfl, rfl⟩

theorem Comment.shows_map_toJson (cs : List Comment) : List.Forall₂ Shows (cs.map toJson) cs := by
  rw [List.forall₂_map_left_iff, List.forall₂_same]
  intro c _
  exact c.shows_toJson

theorem Shows.isComment {v : Json} {c : Comment} (h : Shows v c) : isComment v = true := by
  cases v with
  | object ms => rfl
  | null | bool b | int n | number x | text s | list xs => exact absurd h.id (by simp [Json.get?])

/-- A marker is looked for in the text of a comment; null is as good as an empty text. -/
theorem holdsMarker_of_body {v : Json} {body : Option String}
    (h : (v.get? "body").getD .null = body.elim .null .text) (marker : String) :
    holdsMarker marker v = .ok (holds marker.toList (body.getD "").toList) := by
  have hempty : decide (marker = "") = holds marker.toList [] := by
    rw [Bool.eq_iff_iff, decide_eq_true_iff, holds, List.isEmpty_iff, String.toList_eq_nil_iff]
  rw [holdsMarker, h]
  cases body with
  | none => simp [Json.isTruthy, hempty]
  | some s =>
    by_cases hs : s = ""
    · subst hs
      simp [Json.isTruthy, hempty]
    · simp [Json.isTruthy, hs]

theorem Shows.holdsMarker {v : Json} {c : Comment} (h : Shows v c) (marker : String) :
    holdsMarker marker v = .ok (decide (c.Holds marker)) := by
  rw [holdsMarker_of_body h.body, Except.ok.injEq, Bool.eq_iff_iff, holds_eq_true_iff, decide_eq_true_iff]
  rfl

section Pages

variable {marker : String} {vs ws : List Json} {cs : List Comment}

/-- Among shown comments the target is the first that holds the marker. -/
theorem target?_of_shows (h : List.Forall₂ Shows vs cs) :
    target? marker vs = .ok ((cs.find? fun c => c.Holds marker).map fun c => .int c.id) := by
  induction h with
  | nil => rfl
  | cons hv hvs ih =>
    rename_i v c vs cs
    rw [target?, hv.holdsMarker marker]
    by_cases hc : c.Holds marker
    · simp [hc, hv.id, bind, Except.bind, pure, Except.pure]
    · simpa [hc, bind, Except.bind] using ih

theorem filter_isComment_of_shows (h : List.Forall₂ Shows vs cs) : vs.filter isComment = vs := by
  induction h with
  | nil => rfl
  | cons hv hvs ih => rw [List.filter_cons_of_pos hv.isComment, ih]

/-- The comments on a page, counted from one. -/
def pageOf (cs : List Comment) (number : Nat) : List Comment :=
  (cs.drop ((number - 1) * pageSize)).take pageSize

theorem take_append_pageOf (cs : List Comment) (q : Nat) :
    cs.take (q * pageSize) ++ pageOf cs (q + 1) = cs.take ((q + 1) * pageSize) := by
  rw [pageOf, Nat.add_sub_cancel, Nat.succ_mul, List.take_add]

/-- What has been listed shows the first pages of the comments, and there were as many. -/
structure Listed (q : Nat) (vs : List Json) (cs : List Comment) : Prop where
  full : q * pageSize ≤ cs.length
  shows : List.Forall₂ Shows vs (cs.take (q * pageSize))

theorem Listed.nil (cs : List Comment) : Listed 0 [] cs :=
  ⟨by simp, by simp⟩

theorem Listed.append {q : Nat} (hvs : Listed q vs cs) (hws : List.Forall₂ Shows ws (pageOf cs (q + 1))) :
    List.Forall₂ Shows (vs ++ ws) (cs.take ((q + 1) * pageSize)) := by
  rw [← take_append_pageOf]
  exact List.rel_append hvs.shows hws

theorem length_pageOf (cs : List Comment) (q : Nat) :
    (pageOf cs (q + 1)).length = min pageSize (cs.length - q * pageSize) := by
  rw [pageOf, List.length_take, List.length_drop, Nat.add_sub_cancel]

theorem succ_mul_le_of_full {q : Nat} (hws : List.Forall₂ Shows ws (pageOf cs (q + 1)))
    (hfull : pageSize ≤ ws.length) : (q + 1) * pageSize ≤ cs.length := by
  have hpositive : 0 < pageSize := by decide
  rw [hws.length_eq, length_pageOf] at hfull
  rw [Nat.succ_mul]
  omega

theorem Listed.succ {q : Nat} (hvs : Listed q vs cs) (hws : List.Forall₂ Shows ws (pageOf cs (q + 1)))
    (hfull : pageSize ≤ ws.length) : Listed (q + 1) (vs ++ ws) cs :=
  ⟨succ_mul_le_of_full hws hfull, hvs.append hws⟩

theorem Listed.all {q : Nat} (hvs : Listed q vs cs) (hws : List.Forall₂ Shows ws (pageOf cs (q + 1)))
    (hlast : ¬ pageSize ≤ ws.length) : List.Forall₂ Shows (vs ++ ws) cs := by
  have happend := hvs.append hws
  rw [hws.length_eq, length_pageOf] at hlast
  rwa [List.take_of_length_le (by rw [Nat.succ_mul]; omega)] at happend

theorem Listed.append_right {q : Nat} (h : Listed q vs cs) (rest : List Comment) : Listed q vs (cs ++ rest) := by
  refine ⟨?_, ?_⟩
  · rw [List.length_append]
    exact Nat.le_add_right_of_le h.full
  · rw [List.take_append_of_le_length h.full]
    exact h.shows

theorem Listed.of_append {q : Nat} {rest : List Comment} (h : Listed q vs (cs ++ rest))
    (hfull : q * pageSize ≤ cs.length) : Listed q vs cs := by
  refine ⟨hfull, ?_⟩
  have hshows := h.shows
  rwa [List.take_append_of_le_length hfull] at hshows

end Pages

/-! ### Responses -/

structure Response.Grants (r : Response) (v : Json) : Prop where
  success : 200 ≤ r.status ∧ r.status < 300
  value : r.payload.value = .ok v

theorem Response.Grants.value_eq {r : Response} {v : Json} (h : r.Grants v) : r.value = .ok v := by
  have hstatus : ¬ 400 ≤ r.status := by have := h.success; omega
  rw [Response.value, if_neg hstatus, h.value]
  rfl

/-- A request that the server of an issue can fulfil when it keeps these comments. -/
def Request.IsKnown (issue : Issue) (cs : List Comment) : Request → Prop
  | .page i _ => i = issue
  | .create i _ => i = issue
  | .replace repository comment _ => repository = issue.repository ∧ ∃ c ∈ cs, comment = .int c.id

/-- The comments with another text for the one with a number. -/
def withBody (cs : List Comment) (id : Int) (body : String) : List Comment :=
  cs.map fun c => if c.id = id then { c with body := some body } else c

/-- The responses that the server of an issue may give, with the comments before and after. -/
inductive Serves (issue : Issue) : List Comment → Request → Response → List Comment → Prop where
  | page {cs : List Comment} {number : Nat} {r : Response} {vs : List Json} (hgrants : r.Grants (.list vs))
      (hshows : List.Forall₂ Shows vs (pageOf cs number)) : Serves issue cs (.page issue number) r cs
  | create {cs : List Comment} {body : String} {r : Response} {v : Json} {id : Int}
      (hfresh : id ∉ cs.map Comment.id) (hgrants : r.Grants v) (hshows : Shows v ⟨id, some body⟩) :
      Serves issue cs (.create issue body) r (cs ++ [⟨id, some body⟩])
  | replace {cs : List Comment} {body : String} {r : Response} {v : Json} {id : Int}
      (hknown : id ∈ cs.map Comment.id) (hgrants : r.Grants v) (hshows : Shows v ⟨id, some body⟩) :
      Serves issue cs (.replace issue.repository (.int id) body) r (withBody cs id body)
  | refuse {cs : List Comment} {request : Request} {r : Response} (hunknown : ¬ request.IsKnown issue cs)
      (hrefused : 400 ≤ r.status) : Serves issue cs request r cs

/-! ### What the server does -/

variable {issue : Issue} {cs cs' : List Comment} {r : Response}

def Response.granting (v : Json) : Response := ⟨200, .json v⟩

theorem Response.grants_granting (v : Json) : (Response.granting v).Grants v :=
  ⟨by simp [granting], rfl⟩

theorem exists_serves (issue : Issue) (cs : List Comment) (request : Request) :
    ∃ r cs', Serves issue cs request r cs' := by
  by_cases hknown : request.IsKnown issue cs
  · cases request with
    | page i number =>
      cases hknown
      exact ⟨_, _, .page (Response.grants_granting _) (Comment.shows_map_toJson (pageOf cs number))⟩
    | create i body =>
      cases hknown
      obtain ⟨id, hid⟩ := Infinite.exists_notMem_finset (cs.map Comment.id).toFinset
      exact ⟨_, _, .create (by simpa using hid) (Response.grants_granting _)
        (Comment.shows_toJson ⟨id, some body⟩)⟩
    | replace repository comment body =>
      obtain ⟨rfl, c, hc, rfl⟩ := hknown
      exact ⟨_, _, .replace (List.mem_map_of_mem hc) (Response.grants_granting _)
        (Comment.shows_toJson ⟨c.id, some body⟩)⟩
  · exact ⟨⟨404, .text "Not Found"⟩, cs, .refuse hknown (by decide)⟩

theorem Serves.page_cases {number : Nat} (h : Serves issue cs (.page issue number) r cs') :
    cs' = cs ∧ ∃ vs, r.Grants (.list vs) ∧ List.Forall₂ Shows vs (pageOf cs number) := by
  cases h with
  | page hgrants hshows => exact ⟨rfl, _, hgrants, hshows⟩
  | refuse hunknown hrefused => exact absurd rfl hunknown

theorem Serves.create_cases {body : String} (h : Serves issue cs (.create issue body) r cs') :
    ∃ id v, id ∉ cs.map Comment.id ∧ cs' = cs ++ [⟨id, some body⟩] ∧ r.Grants v := by
  cases h with
  | create hfresh hgrants hshows => exact ⟨_, _, hfresh, rfl, hgrants⟩
  | refuse hunknown hrefused => exact absurd rfl hunknown

theorem Serves.replace_cases {id : Int} {body : String} (hid : id ∈ cs.map Comment.id)
    (h : Serves issue cs (.replace issue.repository (.int id) body) r cs') :
    ∃ v, cs' = withBody cs id body ∧ r.Grants v := by
  cases h with
  | replace hknown hgrants hshows => exact ⟨_, rfl, hgrants⟩
  | refuse hunknown hrefused =>
    obtain ⟨c, hc, rfl⟩ := List.mem_map.mp hid
    exact absurd ⟨rfl, c, hc, rfl⟩ hunknown

theorem withBody_of_not_mem {id : Int} (h : id ∉ cs.map Comment.id) (body : String) :
    withBody cs id body = cs := by
  refine (List.map_congr_left ?_).trans (List.map_id' cs)
  intro c hc
  have hne : c.id ≠ id := by
    rintro rfl
    exact h (List.mem_map_of_mem hc)
  rw [if_neg hne]

/-- What a page brings to an errand. -/
theorem Errand.advance_page (e : Errand) {number : Nat} (found : List Json)
    (h : Serves issue cs (.page issue number) r cs') :
    cs' = cs ∧ ∃ vs, List.Forall₂ Shows vs (pageOf cs number) ∧
      e.advance (.reading issue number found) r =
        if pageSize ≤ vs.length then (.reading issue (number + 1) (found ++ vs), [])
        else e.afterReading (found ++ vs) := by
  obtain ⟨hcs, vs, hgrants, hshows⟩ := h.page_cases
  refine ⟨hcs, vs, hshows, ?_⟩
  rw [Errand.advance, hgrants.value_eq]
  simp [readPage, filter_isComment_of_shows hshows]

/-! ### Places -/

/-- The place of a comment: those before it, its number and those after it. -/
structure Place where
  before : List Comment
  id : Int
  after : List Comment

namespace Place

variable {marker body : String} {p : Place} {old : Option String}

def list (p : Place) (body : Option String) : List Comment := p.before ++ ⟨p.id, body⟩ :: p.after

theorem ids_list (p : Place) (body : Option String) :
    (p.list body).map Comment.id = p.before.map Comment.id ++ p.id :: p.after.map Comment.id := by
  simp [list]

theorem id_mem_list (p : Place) (body : Option String) : p.id ∈ (p.list body).map Comment.id := by
  simp [ids_list]

/-- The first comment with the marker is at a place, and no other comment has its number. -/
structure Marked (marker : String) (p : Place) (body : Option String) : Prop where
  before : ∀ b ∈ p.before, ¬ b.Holds marker
  holds : Comment.Holds marker ⟨p.id, body⟩
  distinct : ((p.list body).map Comment.id).Nodup

theorem Marked.withText (h : p.Marked marker old) (hbody : marker.toList <:+: body.toList) :
    p.Marked marker (some body) where
  before := h.before
  holds := hbody
  distinct := by
    have hdistinct := h.distinct
    rwa [ids_list] at hdistinct ⊢

/-- The first comment with the marker is found, also when not all that follow are known. -/
theorem Marked.find?_take (h : p.Marked marker old) {known : Nat} (hknown : p.before.length < known) :
    ((p.list old).take known).find? (fun c => c.Holds marker) = some ⟨p.id, old⟩ := by
  have hbefore : p.before.find? (fun c => c.Holds marker) = none := by
    rw [List.find?_eq_none]
    intro b hb
    simpa using h.before b hb
  obtain ⟨more, rfl⟩ := Nat.exists_eq_add_of_lt hknown
  rw [list, List.take_append, List.take_of_length_le (by omega), List.find?_append, hbefore, Option.none_or]
  have hrest : p.before.length + more + 1 - p.before.length = more + 1 := by omega
  rw [hrest, List.take_succ_cons, List.find?_cons_of_pos (by simpa using h.holds)]

theorem Marked.find?_list (h : p.Marked marker old) :
    (p.list old).find? (fun c => c.Holds marker) = some ⟨p.id, old⟩ := by
  have hlength : p.before.length < (p.list old).length := by simp [list]
  rw [← h.find?_take hlength, List.take_length]

/-- Among comments with different numbers only the one at the place gets another text. -/
theorem Marked.withBody_list (h : p.Marked marker old) (body : String) :
    withBody (p.list old) p.id body = p.list (some body) := by
  have hids := h.distinct
  rw [ids_list, List.nodup_append, List.nodup_cons] at hids
  obtain ⟨-, ⟨hafter, -⟩, happart⟩ := hids
  have hbefore : p.id ∉ p.before.map Comment.id := fun hmem => happart p.id hmem p.id (by simp) rfl
  have hsplit : withBody (p.list old) p.id body =
      withBody p.before p.id body ++ ⟨p.id, some body⟩ :: withBody p.after p.id body := by
    simp [withBody, list]
  rw [hsplit, withBody_of_not_mem hbefore, withBody_of_not_mem hafter, list]

end Place

/-! ### Conversations -/

structure Turn where
  request : Request
  response : Response
  comments : List Comment

inductive Served (issue : Issue) : List Comment → List Turn → List Comment → Prop where
  | nil {cs : List Comment} : Served issue cs [] cs
  | cons {cs cs' : List Comment} {turn : Turn} {turns : List Turn}
      (hserves : Serves issue cs turn.request turn.response turn.comments)
      (hrest : Served issue turn.comments turns cs') : Served issue cs (turn :: turns) cs'

/-- An errand that has come to a stage goes on to its end: the server serves turn after turn, and given
    the responses the errand makes just these requests. -/
structure Errand.Conversation (issue : Issue) (e : Errand) (stage : Stage) (cs : List Comment)
    (turns : List Turn) (outcome : Except Failure Json) (cs' : List Comment) : Prop where
  served : Served issue cs turns cs'
  requests : (e.runFrom stage (turns.map Turn.response)).requests = turns.map Turn.request
  ended : (e.runFrom stage (turns.map Turn.response)).outcome = outcome

section Conversation

variable {e : Errand} {stage : Stage} {turns : List Turn} {outcome : Except Failure Json}

theorem Errand.runFrom_asks (e : Errand) {request : Request} (hstage : stage.request? = some request)
    (response : Response) (rest : List Response) :
    e.runFrom stage (response :: rest) =
      let next := e.advance stage response
      let later := e.runFrom next.1 rest
      { later with requests := request :: later.requests, notes := next.2 ++ later.notes } := by
  cases stage with
  | reading issue page found =>
    cases hstage
    rw [Errand.runFrom]
    · rfl
    · simp
  | writing written =>
    cases hstage
    rw [Errand.runFrom]
    · rfl
    · simp
  | _ => cases hstage

theorem Errand.runFrom_cons {request : Request} (hstage : stage.request? = some request)
    (response : Response) (rest : List Response) :
    (e.runFrom stage (response :: rest)).requests =
        request :: (e.runFrom (e.advance stage response).1 rest).requests ∧
      (e.runFrom stage (response :: rest)).outcome = (e.runFrom (e.advance stage response).1 rest).outcome := by
  rw [e.runFrom_asks hstage]
  exact ⟨rfl, rfl⟩

namespace Errand.Conversation

theorem of_over (e : Errand) (outcome : Except Failure Json) (cs : List Comment) :
    e.Conversation issue (.over outcome) cs [] outcome cs := by
  refine ⟨.nil, ?_, ?_⟩
  · rw [List.map_nil, runFrom_over]
    rfl
  · rw [List.map_nil, runFrom_over]

theorem over_cases {known : Except Failure Json}
    (h : e.Conversation issue (.over known) cs turns outcome cs') :
    turns = [] ∧ outcome = known ∧ cs' = cs := by
  have hrequests := h.requests
  have hended := h.ended
  rw [runFrom_over] at hrequests hended
  cases turns with
  | nil =>
    cases h.served
    exact ⟨rfl, hended.symm, rfl⟩
  | cons turn turns => simp at hrequests

/-- A stage that awaits a response goes on with the turn of its request. -/
theorem cases {request : Request} (hstage : stage.request? = some request)
    (h : e.Conversation issue stage cs turns outcome cs') :
    ∃ r cs₁ rest, turns = ⟨request, r, cs₁⟩ :: rest ∧ Serves issue cs request r cs₁ ∧
      e.Conversation issue (e.advance stage r).1 cs₁ rest outcome cs' := by
  have hrequests := h.requests
  have hended := h.ended
  cases h.served with
  | nil =>
    rw [List.map_nil, runFrom_nil, hstage] at hrequests
    simp at hrequests
  | cons hserves hrest =>
    rename_i turn turns
    obtain ⟨asked, r, cs₁⟩ := turn
    rw [List.map_cons, (runFrom_cons hstage _ _).1, List.map_cons, List.cons.injEq] at hrequests
    rw [List.map_cons, (runFrom_cons hstage _ _).2] at hended
    obtain ⟨rfl, hlater⟩ := hrequests
    exact ⟨r, cs₁, turns, rfl, hserves, hrest, hlater, hended⟩

theorem cons {request : Request} {cs₁ : List Comment} (hstage : stage.request? = some request)
    (hserves : Serves issue cs request r cs₁)
    (h : e.Conversation issue (e.advance stage r).1 cs₁ turns outcome cs') :
    e.Conversation issue stage cs (⟨request, r, cs₁⟩ :: turns) outcome cs' := by
  refine ⟨.cons hserves h.served, ?_, ?_⟩
  · rw [List.map_cons, (runFrom_cons hstage _ _).1, h.requests, List.map_cons]
  · rw [List.map_cons, (runFrom_cons hstage _ _).2, h.ended]

/-- When all pages come from the same comments, the errand goes on with all of them. -/
theorem reads {q : Nat} {found : List Json} (hlisted : Listed q found cs)
    (h : e.Conversation issue (.reading issue (q + 1) found) cs turns outcome cs') :
    ∃ pages rest all, turns = pages ++ rest ∧
      (∀ turn ∈ pages, turn.comments = cs ∧ turn.request.isWrite = false) ∧
      List.Forall₂ Shows all cs ∧ e.Conversation issue (e.afterReading all).1 cs rest outcome cs' := by
  -- each turn is a page, and what has been found stays the first pages of `cs`
  induction turns generalizing q found with
  | nil =>
    obtain ⟨r, cs₁, rest, hturns, -⟩ := h.cases rfl
    cases hturns
  | cons turn turns ih =>
    obtain ⟨r, cs₁, rest, hturns, hserves, hrest⟩ := h.cases rfl
    obtain ⟨rfl, vs, hshows, hadvance⟩ := e.advance_page found hserves
    rw [List.cons.injEq] at hturns
    obtain ⟨rfl, rfl⟩ := hturns
    rw [hadvance] at hrest
    by_cases hfull : pageSize ≤ vs.length
    · rw [if_pos hfull] at hrest
      obtain ⟨pages, later, all, rfl, hpages, hall, hafter⟩ := ih (hlisted.succ hshows hfull) hrest
      refine ⟨⟨.page issue (q + 1), r, cs₁⟩ :: pages, later, all, rfl, ?_, hall, hafter⟩
      rw [List.forall_mem_cons]
      exact ⟨⟨rfl, rfl⟩, hpages⟩
    · rw [if_neg hfull] at hrest
      refine ⟨[⟨.page issue (q + 1), r, cs₁⟩], turns, found ++ vs, rfl, ?_, ?_, hrest⟩
      · rw [List.forall_mem_singleton]
        exact ⟨rfl, rfl⟩
      · exact hlisted.all hshows hfull

end Errand.Conversation

theorem Errand.afterReading_cases (e : Errand) (found : List Json) :
    (∃ outcome, (e.afterReading found).1 = .over outcome) ∨
      ∃ request, (e.afterReading found).1 = .writing request := by
  cases e with
  | keep issue body marker =>
    rw [afterReading]
    cases target? marker found with
    | error f => exact .inl ⟨_, rfl⟩
    | ok id? =>
      cases id? with
      | none => exact .inr ⟨_, rfl⟩
      | some id => exact .inr ⟨_, rfl⟩
  | list | create | replace => exact .inl ⟨_, rfl⟩

theorem Errand.exists_conversation_afterReading (e : Errand) (found : List Json) (issue : Issue)
    (cs : List Comment) :
    ∃ turns outcome cs', e.Conversation issue (e.afterReading found).1 cs turns outcome cs' := by
  rcases e.afterReading_cases found with ⟨outcome, hover⟩ | ⟨request, hwriting⟩
  · rw [hover]
    exact ⟨_, _, _, .of_over e outcome cs⟩
  · rw [hwriting]
    obtain ⟨r, cs', hserves⟩ := exists_serves issue cs request
    exact ⟨_, _, _, .cons rfl hserves (.of_over e r.value cs')⟩

/-- Reading comes to its end, since each full page leaves fewer comments. -/
theorem Errand.exists_conversation_reading (e : Errand) (issue : Issue) (cs : List Comment) (q : Nat)
    (found : List Json) :
    ∃ turns outcome cs', e.Conversation issue (.reading issue (q + 1) found) cs turns outcome cs' := by
  obtain ⟨r, cs₁, hserves⟩ := exists_serves issue cs (.page issue (q + 1))
  obtain ⟨hsame, vs, hshows, hadvance⟩ := e.advance_page found hserves
  rw [hsame] at hserves
  by_cases hfull : pageSize ≤ vs.length
  -- a full page is taken from the comments that are left, so fewer are left after it
  · have hmore := succ_mul_le_of_full hshows hfull
    rw [if_pos hfull] at hadvance
    obtain ⟨turns, outcome, cs', hrest⟩ := e.exists_conversation_reading issue cs (q + 1) (found ++ vs)
    exact ⟨_, outcome, cs', .cons rfl hserves (by rw [hadvance]; exact hrest)⟩
  · rw [if_neg hfull] at hadvance
    obtain ⟨turns, outcome, cs', hrest⟩ :=
      e.exists_conversation_afterReading (found ++ vs) issue cs
    exact ⟨_, outcome, cs', .cons rfl hserves (by rw [hadvance]; exact hrest)⟩
termination_by cs.length - q * pageSize
decreasing_by
  have hpositive : 0 < pageSize := by decide
  rw [Nat.succ_mul] at hmore ⊢
  omega

end Conversation

end MergeGate.Discussion
