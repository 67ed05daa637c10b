import MergeGate.Proofs.Discussion.Server
import Mathlib.Logic.Function.Basic

/-
  MergeGate/Proofs/Discussion/Interleaving.lean
  =============================================
  **Many runs at once.**  Several runs keep the comment on an issue while others post comments, and
  the server takes their requests in any order (`Moves`, `History`).  A run reads the pages one by one
  and in between the comments change, so what it knows when it writes is not what there is.

  It is nevertheless safe when some comment holds the marker.  Nothing is put before the first such
  comment, and its text always holds the marker.  So a run that is reading either has read only
  comments before it, as they still are, or has already seen it with the marker (`Nearing`); a page
  takes it from the one to the other, and what it writes is a text for this comment.
-/

namespace MergeGate.Discussion

variable {ι : Type} {issue : Issue} {marker : String} {bodies : ι → String}

/-! ### Runs in a room -/

/-- The comments, and how far each run is. -/
structure Room (ι : Type) where
  comments : List Comment
  stage : ι → Stage

/-- What happens: a request of a run is taken, or someone posts a comment. -/
inductive Act (ι : Type) where
  | asked (run : ι) (request : Request)
  | posted (comment : Comment)

def Request.replacement? : Request → Option String
  | .replace _ _ body => some body
  | _ => none

def Act.replacement? : Act ι → Option String
  | .asked _ request => request.replacement?
  | .posted _ => none

def Act.posted? : Act ι → Option Comment
  | .asked _ _ => none
  | .posted comment => some comment

def errandOf (issue : Issue) (marker : String) (bodies : ι → String) (i : ι) : Errand :=
  .keep issue (bodies i) marker

/-- The room before any run has asked for something. -/
def Room.opened (issue : Issue) (marker : String) (bodies : ι → String) (cs : List Comment) : Room ι :=
  ⟨cs, fun i => (errandOf issue marker bodies i).start⟩

/-- The text of a comment after some acts: the last that was given to it, or else the one it had. -/
def bodyAfter (acts : List (Act ι)) (body : Option String) : Option String :=
  (acts.filterMap Act.replacement?).getLast?.or body

section Moves

variable [DecidableEq ι]

/-- The room before and after an act.  A run waits for the response to its request before it goes on. -/
inductive Moves (issue : Issue) (marker : String) (bodies : ι → String) :
    Room ι → Act ι → Room ι → Prop where
  | asked {room : Room ι} {i : ι} {request : Request} {r : Response} {cs' : List Comment}
      (hrequest : (room.stage i).request? = some request)
      (hserves : Serves issue room.comments request r cs') :
      Moves issue marker bodies room (.asked i request)
        ⟨cs', Function.update room.stage i ((errandOf issue marker bodies i).advance (room.stage i) r).1⟩
  | posted {room : Room ι} {c : Comment} (hfresh : c.id ∉ room.comments.map Comment.id) :
      Moves issue marker bodies room (.posted c) ⟨room.comments ++ [c], room.stage⟩

/-- What has happened in a room, in order. -/
inductive History (issue : Issue) (marker : String) (bodies : ι → String) :
    Room ι → List (Act ι) → Room ι → Prop where
  | nil {room : Room ι} : History issue marker bodies room [] room
  | snoc {room room₁ room₂ : Room ι} {acts : List (Act ι)} {act : Act ι}
      (hbefore : History issue marker bodies room acts room₁)
      (hmoves : Moves issue marker bodies room₁ act room₂) :
      History issue marker bodies room (acts ++ [act]) room₂

end Moves

/-! ### One run -/

theorem target?_append {vs : List Json} {id : Json} (h : target? marker vs = .ok (some id))
    (ws : List Json) : target? marker (vs ++ ws) = .ok (some id) := by
  induction vs with
  | nil => cases h
  | cons v vs ih =>
    rw [target?] at h
    rw [List.cons_append, target?]
    cases hv : holdsMarker marker v with
    | error f =>
      rw [hv] at h
      cases h
    | ok held =>
      rw [hv] at h
      cases held with
      | true => exact h
      | false => exact ih h

/-- How a run comes to the comment with a number: it has read only comments before it, or it has seen
    it with the marker, or it writes to it, or it is over. -/
inductive Nearing (issue : Issue) (marker body : String) (before : List Comment) (id : Int) : Stage → Prop where
  | before {q : Nat} {found : List Json} (hlisted : Listed q found before) :
      Nearing issue marker body before id (.reading issue (q + 1) found)
  | seen {q : Nat} {found : List Json} (hseen : target? marker found = .ok (some (.int id))) :
      Nearing issue marker body before id (.reading issue (q + 1) found)
  | writing : Nearing issue marker body before id (.writing (.replace issue.repository (.int id) body))
  | done (v : Json) : Nearing issue marker body before id (.over (.ok v))

variable {body : String} {p : Place} {old : Option String} {r : Response} {cs' : List Comment}

theorem Nearing.afterReading {found : List Json} (hseen : target? marker found = .ok (some (.int p.id))) :
    Nearing issue marker body p.before p.id ((Errand.keep issue body marker).afterReading found).1 := by
  rw [Errand.afterReading, hseen]
  exact .writing

/-- A page takes a run that is reading nearer to the comment. -/
theorem Nearing.advance_page {q : Nat} {found : List Json} (hmarked : p.Marked marker old)
    (h : Nearing issue marker body p.before p.id (.reading issue (q + 1) found))
    (hserves : Serves issue (p.list old) (.page issue (q + 1)) r cs') :
    Nearing issue marker body p.before p.id
      ((Errand.keep issue body marker).advance (.reading issue (q + 1) found) r).1 := by
  obtain ⟨-, vs, hshows, hadvance⟩ := (Errand.keep issue body marker).advance_page found hserves
  rw [hadvance]
  cases h with
  | seen hseen =>
    have hstill := target?_append hseen vs
    split
    · exact .seen hstill
    · exact .afterReading hstill
  | before hlisted =>
    -- what comes before the place has not changed, so it begins with the pages that were read
    have hknown : Listed q found (p.list old) := hlisted.append_right _
    split
    · rename_i hfull
      have hnext := hknown.succ hshows hfull
      by_cases hshort : (q + 1) * pageSize ≤ p.before.length
      · exact .before (hnext.of_append hshort)
      -- the page reaches beyond the place, and the comment there holds the marker now as ever
      · apply Nearing.seen
        rw [target?_of_shows hnext.shows, hmarked.find?_take (by omega)]
        rfl
    · rename_i hlast
      apply Nearing.afterReading
      rw [target?_of_shows (hknown.all hshows hlast), hmarked.find?_list]
      rfl

theorem Nearing.replaces {before : List Comment} {id : Int} {stage : Stage} {request : Request}
    (h : Nearing issue marker body before id stage) (hrequest : stage.request? = some request)
    (hwrite : request.isWrite = true) : request = .replace issue.repository (.int id) body := by
  cases h with
  | before | seen =>
    cases hrequest
    cases hwrite
  | writing =>
    cases hrequest
    rfl
  | done v => cases hrequest

/-- A request of a run that is nearing the comment gives it at most another text, and the response takes
    the run nearer. -/
theorem Nearing.serves {stage : Stage} {request : Request} (hmarked : p.Marked marker old)
    (hbody : marker.toList <:+: body.toList) (h : Nearing issue marker body p.before p.id stage)
    (hrequest : stage.request? = some request) (hserves : Serves issue (p.list old) request r cs') :
    cs' = p.list (request.replacement?.or old) ∧ p.Marked marker (request.replacement?.or old) ∧
      Nearing issue marker body p.before p.id ((Errand.keep issue body marker).advance stage r).1 := by
  cases h with
  | before hlisted =>
    cases hrequest
    exact ⟨hserves.page_cases.1, hmarked, .advance_page hmarked (.before hlisted) hserves⟩
  | seen hseen =>
    cases hrequest
    exact ⟨hserves.page_cases.1, hmarked, .advance_page hmarked (.seen hseen) hserves⟩
  | writing =>
    cases hrequest
    obtain ⟨v, rfl, hgrants⟩ := hserves.replace_cases (p.id_mem_list old)
    refine ⟨hmarked.withBody_list body, hmarked.withText hbody, ?_⟩
    rw [Errand.advance, hgrants.value_eq]
    exact .done v
  | done v => cases hrequest

/-! ### All runs -/

/-- The place after some acts: comments that were posted follow it. -/
def Place.later (p : Place) (acts : List (Act ι)) : Place :=
  { p with after := p.after ++ acts.filterMap Act.posted? }

/-- What holds of a room after some acts when the comment at a place is kept. -/
structure Kept (issue : Issue) (marker : String) (bodies : ι → String) (p : Place) (old : Option String)
    (acts : List (Act ι)) (room : Room ι) : Prop where
  comments : room.comments = (p.later acts).list (bodyAfter acts old)
  marked : (p.later acts).Marked marker (bodyAfter acts old)
  nearing : ∀ i, Nearing issue marker (bodies i) p.before p.id (room.stage i)
  writes : ∀ i request, Act.asked i request ∈ acts → request.isWrite = true →
    request = .replace issue.repository (.int p.id) (bodies i)

theorem bodyAfter_snoc (acts : List (Act ι)) (act : Act ι) (body : Option String) :
    bodyAfter (acts ++ [act]) body = act.replacement?.or (bodyAfter acts body) := by
  cases hact : act.replacement? <;> simp [bodyAfter, hact]

theorem Place.later_asked (p : Place) (acts : List (Act ι)) (i : ι) (request : Request) :
    p.later (acts ++ [.asked i request]) = p.later acts := by
  simp [later, Act.posted?]

theorem Place.list_later_posted (p : Place) (acts : List (Act ι)) (c : Comment) (body : Option String) :
    (p.later (acts ++ [.posted c])).list body = (p.later acts).list body ++ [c] := by
  simp [later, list, Act.posted?]

theorem Kept.opened {p : Place} {old : Option String} (hmarked : p.Marked marker old) :
    Kept issue marker bodies p old [] (.opened issue marker bodies (p.list old)) where
  comments := by simp [Room.opened, Place.later, bodyAfter]
  marked := by simpa [Place.later, bodyAfter] using hmarked
  nearing := fun _ => .before (.nil p.before)
  writes := by simp

theorem Kept.posted {p : Place} {old : Option String} {acts : List (Act ι)} {room : Room ι} {c : Comment}
    (h : Kept issue marker bodies p old acts room) (hfresh : c.id ∉ room.comments.map Comment.id) :
    Kept issue marker bodies p old (acts ++ [.posted c]) ⟨room.comments ++ [c], room.stage⟩ where
  comments := by
    rw [bodyAfter_snoc, Place.list_later_posted, h.comments]
    rfl
  marked := by
    rw [bodyAfter_snoc]
    refine ⟨h.marked.before, h.marked.holds, ?_⟩
    have hdistinct := h.marked.distinct
    rw [← h.comments] at hdistinct
    rw [Act.replacement?, Option.none_or, Place.list_later_posted, ← h.comments, List.map_append,
      List.map_singleton, List.nodup_append]
    refine ⟨hdistinct, List.nodup_singleton _, ?_⟩
    rintro id hid _ hc rfl
    rw [List.mem_singleton.mp hc] at hid
    exact hfresh hid
  nearing := h.nearing
  writes := by
    intro i request hasked
    exact h.writes i request (by simpa using hasked)

section

variable [DecidableEq ι]

theorem Kept.asked {p : Place} {old : Option String} {acts : List (Act ι)} {room : Room ι} {i : ι}
    {request : Request} {r : Response} {cs' : List Comment}
    (hbodies : ∀ i, marker.toList <:+: (bodies i).toList)
    (h : Kept issue marker bodies p old acts room) (hrequest : (room.stage i).request? = some request)
    (hserves : Serves issue room.comments request r cs') :
    Kept issue marker bodies p old (acts ++ [.asked i request])
      ⟨cs', Function.update room.stage i ((errandOf issue marker bodies i).advance (room.stage i) r).1⟩ := by
  have hnearing := h.nearing i
  rw [h.comments] at hserves
  obtain ⟨hcs, hmarked, hnext⟩ :=
    Nearing.serves (p := p.later acts) h.marked (hbodies i) hnearing hrequest hserves
  refine ⟨?_, ?_, ?_, ?_⟩
  · rw [bodyAfter_snoc, Place.later_asked]
    exact hcs
  · rw [bodyAfter_snoc, Place.later_asked]
    exact hmarked
  -- only the errand that asked moves on
  · intro j
    dsimp only
    by_cases hj : j = i
    · subst hj
      rw [Function.update_self]
      exact hnext
    · rw [Function.update_of_ne hj]
      exact h.nearing j
  · intro j asked hasked hwrite
    rw [List.mem_append, List.mem_singleton] at hasked
    rcases hasked with hearlier | hnow
    · exact h.writes j asked hearlier hwrite
    · cases hnow
      exact hnearing.replaces hrequest hwrite

theorem Kept.of_history {p : Place} {old : Option String} {acts : List (Act ι)} {room : Room ι}
    (hbodies : ∀ i, marker.toList <:+: (bodies i).toList) (hmarked : p.Marked marker old)
    (h : History issue marker bodies (.opened issue marker bodies (p.list old)) acts room) :
    Kept issue marker bodies p old acts room := by
  -- the induction takes the acts from the first to the last, and the room it starts from is fixed
  generalize hopened : Room.opened issue marker bodies (p.list old) = opened at h
  induction h with
  | nil =>
    subst hopened
    exact .opened hmarked
  | snoc hbefore hmoves ih =>
    cases hmoves with
    | asked hrequest hserves => exact Kept.asked hbodies ih hrequest hserves
    | posted hfresh => exact ih.posted hfresh

/-- **Runs that keep a comment at the same time neither double it nor touch another.**  Let the first
    comment with the marker be known and let the texts of all runs hold the marker.  However the
    requests of the runs and the posts of others follow each other, the comments are the initial ones
    and those posted, with the last text that was written in place of that comment's.  Every request
    that writes, whether taken or still awaited, gives a run's text to that comment.  No run fails,
    and each that is not over can go on. -/
theorem History.keeps_comment (issue : Issue) {before after : List Comment} {c : Comment}
    (hids : ((before ++ c :: after).map Comment.id).Nodup) (hfirst : ∀ b ∈ before, ¬ b.Holds marker)
    (hholds : c.Holds marker) (hbodies : ∀ i, marker.toList <:+: (bodies i).toList)
    {acts : List (Act ι)} {room : Room ι}
    (h : History issue marker bodies (.opened issue marker bodies (before ++ c :: after)) acts room) :
    room.comments =
        before ++ ⟨c.id, bodyAfter acts c.body⟩ :: (after ++ acts.filterMap Act.posted?) ∧
      (∀ i request, Act.asked i request ∈ acts ∨ (room.stage i).request? = some request →
        request.isWrite = true → request = .replace issue.repository (.int c.id) (bodies i)) ∧
      ∀ i, (∃ v, room.stage i = .over (.ok v)) ∨
        ∃ request room', Moves issue marker bodies room (.asked i request) room' := by
  have hkept : Kept issue marker bodies ⟨before, c.id, after⟩ c.body acts room :=
    .of_history hbodies ⟨hfirst, hholds, hids⟩ h
  refine ⟨hkept.comments, ?_, ?_⟩
  · rintro i request (hasked | hrequest) hwrite
    · exact hkept.writes i request hasked hwrite
    · exact (hkept.nearing i).replaces hrequest hwrite
  · intro i
    -- an errand that still asks is answered; one that does not has ended, and not in an error
    cases hrequest : (room.stage i).request? with
    | some request =>
      obtain ⟨r, cs', hserves⟩ := exists_serves issue room.comments request
      exact .inr ⟨request, _, .asked hrequest hserves⟩
    | none =>
      left
      have hnearing := hkept.nearing i
      cases hstage : room.stage i with
      | reading issue page found | writing asked => simp [hstage, Stage.request?] at hrequest
      | _ =>
        rw [hstage] at hnearing
        cases hnearing with
        | done v => exact ⟨v, rfl⟩

end

def twoBodies : Bool → String
  | false => "[gate] failed"
  | true => "[gate] passed"

/-- Two runs read the page with a comment of the gate, someone posts between them, and both write. -/
theorem History.keeps_comment_twoBodies :
    let issue : Issue := ⟨"octo/app", .figure 7⟩
    let start : Room Bool := .opened issue "[gate]" twoBodies [⟨1, none⟩, ⟨2, some "[gate] runs"⟩]
    ∃ room, History issue "[gate]" twoBodies start
        [.asked false (.page issue 1), .posted ⟨3, some "[gate] again?"⟩, .asked true (.page issue 1),
          .asked false (.replace "octo/app" (.int 2) "[gate] failed"),
          .asked true (.replace "octo/app" (.int 2) "[gate] passed")] room ∧
      room.comments = [⟨1, none⟩, ⟨2, some "[gate] passed"⟩, ⟨3, some "[gate] again?"⟩] := by
  intro issue start
  have hpage (cs : List Comment) :
      Serves issue cs (.page issue 1) (.granting (.list ((pageOf cs 1).map Comment.toJson))) cs :=
    .page (Response.grants_granting _) (Comment.shows_map_toJson _)
  have hreplace (cs : List Comment) (body : String) (hknown : (2 : Int) ∈ cs.map Comment.id) :
      Serves issue cs (.replace "octo/app" (.int 2) body) (.granting (Comment.toJson ⟨2, some body⟩))
        (withBody cs 2 body) :=
    .replace hknown (Response.grants_granting _) (Comment.shows_toJson _)
  have hopened : History issue "[gate]" twoBodies start [] start := .nil
  have hasked := hopened.snoc (.asked (i := false) rfl (hpage _))
  have hposted := hasked.snoc (.posted (c := ⟨3, some "[gate] again?"⟩) (by decide))
  have hread := hposted.snoc (.asked (i := true) rfl (hpage _))
  have hfailed := hread.snoc (.asked (i := false) rfl (hreplace _ "[gate] failed" (by decide)))
  have hpassed := hfailed.snoc (.asked (i := true) rfl (hreplace _ "[gate] passed" (by decide)))
  refine ⟨_, hpassed, ?_⟩
  have hids : (([⟨1, none⟩] ++ ⟨2, some "[gate] runs"⟩ :: [] : List Comment).map Comment.id).Nodup := by decide
  exact (History.keeps_comment issue hids (by decide) (by decide) (by decide) hpassed).1

end MergeGate.Discussion
