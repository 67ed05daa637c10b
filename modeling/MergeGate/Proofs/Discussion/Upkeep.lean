import MergeGate.Report.Comment
import MergeGate.Proofs.Discussion.Server
import MergeGate.Proofs.Text.Words

/-
  MergeGate/Proofs/Discussion/Upkeep.lean
  =======================================
  **One comment that is kept up to date.**  Run after run the gate keeps its comment on an issue.  Its
  place (`Place`) is found once: it is that of the first comment with the marker, or if there is none
  the end, where the first run puts a new comment.  From then on each run replaces the text at this
  place and nothing else changes (`Upkeep.keeps_place`).

  What a run writes depends on all the comments that it has read (`writeFor`).  A text that holds the
  marker leaves the place the first with the marker, and this is what carries the induction over the
  runs (`Place.Marked`).  The comment on a report begins with the marker (`Report.marker_leads`).
-/

namespace MergeGate

open MergeGate.Text

/-! ### The marker of a report -/

/-- Whatever is reported, the comment begins with the marker. -/
theorem Report.marker_leads {r : Report} {limit : Int} {body : String}
    (h : r.toComment limit = .ok body) : commentMarker.toList <+: body.toList := by
  rw [toComment] at h
  cases hstatus : r.status? with
  | error e =>
    rw [hstatus] at h
    cases h
  | ok status =>
    rw [hstatus] at h
    cases h
    have hheader : commentMarker.toList <+: r.header status := joinWith_leads ['\n'] _ _
    have hfilled : (!(r.header status).isEmpty) = true := by
      obtain ⟨rest, hrest⟩ := hheader
      rw [← hrest]
      rfl
    rw [String.toList_ofList, commentWith, List.filter_cons, if_pos hfilled]
    exact hheader.trans ((joinWith_leads ['\n'] _ _).trans (List.prefix_append _ _))

end MergeGate

namespace MergeGate.Discussion

variable {issue : Issue} {marker body : String} {cs cs' : List Comment}

/-- The place of the comment that is kept: that of the first comment with the marker, or if there is
    none the end, with a number that no comment has. -/
inductive Place.Keeps (marker : String) : List Comment → Place → Prop where
  | first {before after : List Comment} {c : Comment} (hbefore : ∀ b ∈ before, ¬ b.Holds marker)
      (hholds : c.Holds marker) : Place.Keeps marker (before ++ c :: after) ⟨before, c.id, after⟩
  | fresh {cs : List Comment} {id : Int} (hnone : ∀ c ∈ cs, ¬ c.Holds marker)
      (hfresh : id ∉ cs.map Comment.id) : Place.Keeps marker cs ⟨cs, id, []⟩

/-! ### One run -/

/-- What is written when these are all the comments. -/
def writeFor (issue : Issue) (body marker : String) (cs : List Comment) : Request :=
  match cs.find? fun c => c.Holds marker with
  | some c => .replace issue.repository (.int c.id) body
  | none => .create issue body

theorem Errand.afterReading_keep {all : List Json} (h : List.Forall₂ Shows all cs) :
    ((Errand.keep issue body marker).afterReading all).1 = .writing (writeFor issue body marker cs) := by
  rw [afterReading, target?_of_shows h, writeFor]
  cases cs.find? fun c => c.Holds marker <;> rfl

theorem Place.Marked.writeFor_list {p : Place} {old : Option String} (h : p.Marked marker old) :
    writeFor issue body marker (p.list old) = .replace issue.repository (.int p.id) body := by
  rw [writeFor, h.find?_list]

theorem writeFor_of_none (h : ∀ c ∈ cs, ¬ c.Holds marker) :
    writeFor issue body marker cs = .create issue body := by
  have hnone : cs.find? (fun c => c.Holds marker) = none := by
    rw [List.find?_eq_none]
    intro c hc
    simpa using h c hc
  rw [writeFor, hnone]

structure Call where
  body : String
  turns : List Turn
  outcome : Except Failure Json

def Call.Runs (issue : Issue) (marker : String) (call : Call) (cs cs' : List Comment) : Prop :=
  (Errand.keep issue call.body marker).Conversation issue (Errand.keep issue call.body marker).start cs
    call.turns call.outcome cs'

/-- A run that writes one request: the comments change with it and it is the only one. -/
structure Call.Writes (call : Call) (request : Request) (cs cs' : List Comment) : Prop where
  completed : ∃ v, call.outcome = .ok v
  comments : ∀ turn ∈ call.turns, turn.comments = cs ∨ turn.comments = cs'
  writes : ∀ turn ∈ call.turns, turn.request.isWrite = true → turn.request = request

theorem Call.Runs.cases {call : Call} (h : call.Runs issue marker cs cs') :
    ∃ r, Serves issue cs (writeFor issue call.body marker cs) r cs' ∧
      ((∃ v, r.Grants v) → call.Writes (writeFor issue call.body marker cs) cs cs') := by
  obtain ⟨pages, rest, all, hturns, hpages, hall, hafter⟩ := h.reads (.nil cs)
  rw [Errand.afterReading_keep hall] at hafter
  obtain ⟨r, cs₁, later, rfl, hserves, hover⟩ := hafter.cases rfl
  obtain ⟨rfl, houtcome, rfl⟩ := hover.over_cases
  refine ⟨r, hserves, ?_⟩
  rintro ⟨v, hgrants⟩
  refine ⟨⟨v, by rw [houtcome, hgrants.value_eq]⟩, ?_, ?_⟩
  · intro turn hturn
    rw [hturns, List.mem_append, List.mem_singleton] at hturn
    rcases hturn with hpage | rfl
    · exact .inl (hpages turn hpage).1
    · exact .inr rfl
  · intro turn hturn hwrite
    rw [hturns, List.mem_append, List.mem_singleton] at hturn
    rcases hturn with hpage | rfl
    · rw [(hpages turn hpage).2] at hwrite
      cases hwrite
    · rfl

theorem Call.Runs.replaces {call : Call} {p : Place} {old : Option String} (hmarked : p.Marked marker old)
    (h : call.Runs issue marker (p.list old) cs') :
    cs' = p.list (some call.body) ∧
      call.Writes (.replace issue.repository (.int p.id) call.body) (p.list old) cs' := by
  obtain ⟨r, hserves, hwrites⟩ := h.cases
  rw [hmarked.writeFor_list] at hserves hwrites
  obtain ⟨v, rfl, hgrants⟩ := hserves.replace_cases (p.id_mem_list old)
  exact ⟨hmarked.withBody_list call.body, hwrites ⟨v, hgrants⟩⟩

theorem Call.Runs.creates {call : Call} (hnone : ∀ c ∈ cs, ¬ c.Holds marker)
    (h : call.Runs issue marker cs cs') :
    ∃ id, id ∉ cs.map Comment.id ∧ cs' = cs ++ [⟨id, some call.body⟩] ∧
      call.Writes (.create issue call.body) cs cs' := by
  obtain ⟨r, hserves, hwrites⟩ := h.cases
  rw [writeFor_of_none hnone] at hserves hwrites
  obtain ⟨id, v, hfresh, hcs, hgrants⟩ := hserves.create_cases
  exact ⟨id, hfresh, hcs, hwrites ⟨v, hgrants⟩⟩

theorem Call.exists_runs (issue : Issue) (marker body : String) (cs : List Comment) :
    ∃ call cs', call.body = body ∧ Call.Runs issue marker call cs cs' := by
  obtain ⟨turns, outcome, cs', h⟩ :=
    (Errand.keep issue body marker).exists_conversation_reading issue cs 0 []
  exact ⟨⟨body, turns, outcome⟩, cs', rfl, h⟩

/-! ### Run after run -/

inductive Upkeep (issue : Issue) (marker : String) : List Comment → List Call → List Comment → Prop where
  | nil {cs : List Comment} : Upkeep issue marker cs [] cs
  | cons {cs cs₁ cs' : List Comment} {call : Call} {calls : List Call} (hruns : call.Runs issue marker cs cs₁)
      (hrest : Upkeep issue marker cs₁ calls cs') : Upkeep issue marker cs (call :: calls) cs'

namespace Upkeep

theorem exists_calls (issue : Issue) (marker : String) (bodies : List String) (cs : List Comment) :
    ∃ calls cs', calls.map Call.body = bodies ∧ Upkeep issue marker cs calls cs' := by
  induction bodies generalizing cs with
  | nil => exact ⟨[], cs, rfl, .nil⟩
  | cons body bodies ih =>
    obtain ⟨call, cs₁, rfl, hruns⟩ := Call.exists_runs issue marker body cs
    obtain ⟨calls, cs', rfl, hrest⟩ := ih cs₁
    exact ⟨call :: calls, cs', rfl, .cons hruns hrest⟩

/-- Once the place is marked, runs only replace the text there. -/
theorem of_marked {p : Place} {old : String} {calls : List Call}
    (hbodies : ∀ call ∈ calls, marker.toList <:+: call.body.toList) (hmarked : p.Marked marker (some old))
    (h : Upkeep issue marker (p.list (some old)) calls cs') :
    cs' = p.list (some ((calls.map Call.body).getLast?.getD old)) ∧
      ∀ call ∈ calls, (∃ v, call.outcome = .ok v) ∧ ∀ turn ∈ call.turns,
        (∃ body ∈ old :: calls.map Call.body, turn.comments = p.list (some body)) ∧
        (turn.request.isWrite = true → turn.request = .replace issue.repository (.int p.id) call.body) := by
  -- the place stays marked with the text of the run before, so the next run finds it again
  induction calls generalizing old with
  | nil =>
    cases h
    exact ⟨rfl, by simp⟩
  | cons call calls ih =>
    cases h with
    | cons hruns hrest =>
      rw [List.forall_mem_cons] at hbodies
      obtain ⟨rfl, hwrites⟩ := hruns.replaces hmarked
      obtain ⟨hlast, hcalls⟩ := ih hbodies.2 (hmarked.withText hbodies.1) hrest
      refine ⟨?_, ?_⟩
      · rw [hlast, List.map_cons, List.getLast?_cons, Option.getD_some]
      · rw [List.forall_mem_cons]
        refine ⟨⟨hwrites.completed, ?_⟩, ?_⟩
        · intro turn hturn
          refine ⟨?_, hwrites.writes turn hturn⟩
          rcases hwrites.comments turn hturn with hcs | hcs
          · exact ⟨old, by simp, hcs⟩
          · exact ⟨call.body, by simp, hcs⟩
        · intro later hlater
          obtain ⟨hcompleted, hturns⟩ := hcalls later hlater
          refine ⟨hcompleted, ?_⟩
          intro turn hturn
          obtain ⟨⟨body, hbody, hcs⟩, hwrite⟩ := hturns turn hturn
          exact ⟨⟨body, List.mem_cons_of_mem old hbody, hcs⟩, hwrite⟩

end Upkeep

/-- The first run finds or makes the place, and leaves it marked. -/
theorem Call.Runs.exists_place {call : Call} (hids : (cs.map Comment.id).Nodup)
    (hbody : marker.toList <:+: call.body.toList) (h : call.Runs issue marker cs cs') :
    ∃ p : Place, p.Keeps marker cs ∧ cs' = p.list (some call.body) ∧ p.Marked marker (some call.body) ∧
      ∃ request, call.Writes request cs cs' := by
  cases hfind : cs.find? fun c => c.Holds marker with
  | some c =>
    obtain ⟨hholds, before, after, rfl, hbefore⟩ := List.find?_eq_some_iff_append.mp hfind
    have hfree : ∀ b ∈ before, ¬ b.Holds marker := by
      intro b hb
      simpa using hbefore b hb
    have hmarked : Place.Marked marker ⟨before, c.id, after⟩ c.body :=
      ⟨hfree, by simpa using hholds, hids⟩
    obtain ⟨hcs, hwrites⟩ := Call.Runs.replaces (p := ⟨before, c.id, after⟩) hmarked h
    exact ⟨_, .first hfree hmarked.holds, hcs, hmarked.withText hbody, _, hwrites⟩
  | none =>
    have hnone : ∀ c ∈ cs, ¬ c.Holds marker := by
      intro c hc
      simpa using List.find?_eq_none.mp hfind c hc
    obtain ⟨id, hfresh, hcs, hwrites⟩ := h.creates hnone
    refine ⟨⟨cs, id, []⟩, .fresh hnone hfresh, hcs, ⟨hnone, hbody, ?_⟩, _, hwrites⟩
    rw [Place.ids_list]
    simpa [List.nodup_append] using ⟨hids, fun c hc hid => hfresh (List.mem_map.mpr ⟨c, hc, hid⟩)⟩

/-- **The comment of the gate is one and stays in its place.**  Runs with comments on any reports come
    to their end one after the other, and however the server responds, all of them keep the comment
    at one place: the first one with the marker or a new one at the end.  At every moment the comments
    are the initial ones, but for the text at this place, and in the end it is the last text; after
    the first run only this text is replaced and nothing else is written. -/
theorem Upkeep.keeps_place (issue : Issue) {cs : List Comment} (hids : (cs.map Comment.id).Nodup)
    {bodies : List String} (hsome : bodies ≠ [])
    (hbodies : ∀ body ∈ bodies, ∃ r limit, Report.toComment limit r = .ok body) :
    (∃ calls cs', calls.map Call.body = bodies ∧ Upkeep issue commentMarker cs calls cs') ∧
      ∀ calls cs', calls.map Call.body = bodies → Upkeep issue commentMarker cs calls cs' →
        ∃ p : Place, p.Keeps commentMarker cs ∧ cs' = p.list (some (bodies.getLast hsome)) ∧
          (∀ call ∈ calls, (∃ v, call.outcome = .ok v) ∧ ∀ turn ∈ call.turns,
            turn.comments = cs ∨ ∃ body ∈ bodies, turn.comments = p.list (some body)) ∧
          ∀ call ∈ calls.tail, ∀ turn ∈ call.turns, turn.request.isWrite = true →
            turn.request = .replace issue.repository (.int p.id) call.body := by
  refine ⟨Upkeep.exists_calls issue commentMarker bodies cs, ?_⟩
  rintro calls cs' rfl h
  have hmarker : ∀ call ∈ calls, commentMarker.toList <:+: call.body.toList := by
    intro call hcall
    obtain ⟨r, limit, hcomment⟩ := hbodies call.body (List.mem_map_of_mem hcall)
    exact (Report.marker_leads hcomment).isInfix
  cases h with
  | nil => exact absurd rfl hsome
  | cons hruns hrest =>
    rename_i cs₁ call calls
    rw [List.forall_mem_cons] at hmarker
    -- the first call finds or makes the place; from then on it is marked and every call finds it again
    obtain ⟨p, hkeeps, rfl, hmarked, request, hwrites⟩ := hruns.exists_place hids hmarker.1
    obtain ⟨hlast, hcalls⟩ := Upkeep.of_marked hmarker.2 hmarked hrest
    refine ⟨p, hkeeps, ?_, ?_, ?_⟩
    · have hgetLast : (call.body :: calls.map Call.body).getLast hsome =
          (calls.map Call.body).getLast?.getD call.body := by
        apply Option.some_injective
        rw [← List.getLast?_eq_some_getLast, List.getLast?_cons]
      rw [hlast, ← hgetLast]
      rfl
    · rw [List.forall_mem_cons]
      refine ⟨⟨hwrites.completed, ?_⟩, ?_⟩
      · intro turn hturn
        rcases hwrites.comments turn hturn with hcs | hcs
        · exact .inl hcs
        · exact .inr ⟨call.body, by simp, hcs⟩
      · intro later hlater
        refine ⟨(hcalls later hlater).1, ?_⟩
        intro turn hturn
        exact .inr ((hcalls later hlater).2 turn hturn).1
    · intro later hlater turn hturn
      exact ((hcalls later hlater).2 turn hturn).2

def cleanReport : Report where
  tool := "gate"
  version := "1.0"
  status := Status.pass.label
  failing := false
  threshold := .error

/-- Two runs on an issue with a comment that has no text and one with another text. -/
theorem Upkeep.keeps_place_cleanReport :
    let cs : List Comment := [⟨1, none⟩, ⟨2, some "Looks good."⟩]
    let body := String.ofList (cleanReport.commentWith .pass Report.commentLimit)
    (∃ calls cs', calls.map Call.body = [body, body] ∧
        Upkeep ⟨"octo/app", .figure 7⟩ commentMarker cs calls cs') ∧
      ∀ calls cs', calls.map Call.body = [body, body] → Upkeep ⟨"octo/app", .figure 7⟩ commentMarker cs calls cs' →
        ∃ p : Place, p.Keeps commentMarker cs ∧ cs' = p.list (some body) := by
  intro cs body
  have hbody : Report.toComment Report.commentLimit cleanReport = .ok body := rfl
  have hids : (cs.map Comment.id).Nodup := by decide
  have hbodies : ∀ b ∈ [body, body], ∃ r limit, Report.toComment limit r = .ok b := by
    simpa using ⟨cleanReport, Report.commentLimit, hbody⟩
  have hkeeps := Upkeep.keeps_place ⟨"octo/app", .figure 7⟩ hids (by simp) hbodies
  refine ⟨hkeeps.1, ?_⟩
  intro calls cs' hcalls h
  obtain ⟨p, hp, hlast, -⟩ := hkeeps.2 calls cs' hcalls h
  exact ⟨p, hp, hlast⟩

end MergeGate.Discussion
