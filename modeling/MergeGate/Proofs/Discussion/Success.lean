import MergeGate.Proofs.Discussion.Keeping

/-
  MergeGate/Proofs/Discussion/Success.lean
  ========================================
  **What counts as success.**  Only a status of 400 or more is a refusal.  Whatever an errand does, a
  refusal that it receives makes it fail, so it comes to its end only over responses below 400, and if
  these are all from 200 to 299 its writing has been accepted.

  Between the other statuses below 400 and a success an errand sees no difference
  (`Errand.runFrom_map_taken`).  A listing that is moved elsewhere is taken for one without comments, and
  a writing that is moved for one that has been accepted (`Errand.run_success`).
-/

namespace MergeGate.Discussion

open MergeGate.Text

/-- A status that tells of success. -/
def Response.Succeeds (r : Response) : Prop := 200 ≤ r.status ∧ r.status < 300

/-- What a response that is no refusal is taken for. -/
def Response.taken (r : Response) : Response := if r.status < 400 then ⟨200, r.payload⟩ else r

theorem Response.value_of_lt (r : Response) (h : r.status < 400) : r.value = r.payload.value.mapError .notJson :=
  if_neg (Nat.not_le_of_lt h)

theorem Response.value_taken (r : Response) : r.taken.value = r.value := by
  unfold taken
  split
  · rename_i hstatus
    rw [r.value_of_lt hstatus, value_of_lt _ (by simp)]
  · rfl

namespace Errand

/-- The responses that an errand receives, one for each request. -/
def received (e : Errand) (responses : List Response) : List Response :=
  responses.take (e.run responses).requests.length

/-! ### Statuses below 400 -/

theorem advance_taken (e : Errand) (stage : Stage) (r : Response) : e.advance stage r.taken = e.advance stage r := by
  cases stage with
  | reading issue page found => rw [advance, advance, r.value_taken]
  | writing request => rw [advance, advance, r.value_taken]
  | _ => rfl

theorem runFrom_map_taken (e : Errand) (stage : Stage) (responses : List Response) :
    e.runFrom stage (responses.map Response.taken) =
      { e.runFrom stage responses with left := (e.runFrom stage responses).left.map Response.taken } := by
  induction stage, responses using e.stages_induction with
  | ended outcome rest => rw [runFrom_over, runFrom_over]
  | unanswered stage request hstage => cases stage <;> rfl
  | answered stage request r rest hstage ih =>
    rw [List.map_cons, e.runFrom_asks hstage, e.runFrom_asks hstage, advance_taken]
    dsimp only
    rw [ih]

/-! ### Errands that come to their end -/

variable {e : Errand} {stage : Stage} {responses : List Response} {v : Json}

/-- An errand that comes to its end has a response to each request. -/
theorem length_requests_le_of_ok (h : (e.runFrom stage responses).outcome = .ok v) :
    (e.runFrom stage responses).requests.length ≤ responses.length := by
  induction stage, responses using e.stages_induction with
  | ended outcome rest =>
    rw [runFrom_over]
    exact Nat.zero_le _
  | unanswered stage request hstage => cases stage <;> cases hstage <;> cases h
  | answered stage request r rest hstage ih =>
    obtain ⟨hrequests, houtcome⟩ := runFrom_cons hstage r rest
    rw [houtcome] at h
    rw [hrequests]
    exact Nat.succ_le_succ (ih h)

theorem outcome_of_refusal {r : Response} (hr : r ∈ e.received responses) (hstatus : 400 ≤ r.status) :
    (e.run responses).outcome = .error (.refused r.status r.payload.plain) := by
  obtain ⟨i, hi⟩ := List.mem_iff_getElem?.mp hr
  rw [received, List.getElem?_take] at hi
  split at hi
  · rename_i hasked
    exact (runFrom_of_error hi (r.value_of_refusal hstatus) hasked).1
  · cases hi

theorem status_lt_of_ok (h : (e.run responses).outcome = .ok v) : ∀ r ∈ e.received responses, r.status < 400 := by
  intro r hr
  by_contra hstatus
  rw [outcome_of_refusal hr (Nat.le_of_not_lt hstatus)] at h
  cases h

/-! ### What is written -/

variable {issue : Issue} {body marker : String}

/-- When all comments are known the errand fails, or goes on to write. -/
theorem afterReading_keep_cases (issue : Issue) (body marker : String) (found : List Json) :
    (∃ f, ((Errand.keep issue body marker).afterReading found).1 = .over (.error f)) ∨
      ∃ w, w.isWrite = true ∧ ((Errand.keep issue body marker).afterReading found).1 = .writing w := by
  rw [afterReading]
  cases target? marker found with
  | error f => exact .inl ⟨f, rfl⟩
  | ok id? =>
    cases id? with
    | none => exact .inr ⟨_, rfl, rfl⟩
    | some id => exact .inr ⟨_, rfl, rfl⟩

/-- A comment is kept only by a request that writes, which is the last one, and by the response to it. -/
theorem exists_write_of_ok (h : ((Errand.keep issue body marker).run responses).outcome = .ok v) :
    ∃ pages w r, ((Errand.keep issue body marker).run responses).requests = firstPages issue pages ++ [w] ∧
      w.isWrite = true ∧ responses[pages]? = some r ∧ r.value = .ok v := by
  obtain ⟨full, rest, rfl, hfull, hrest⟩ := exists_full_append responses
  rw [run, start] at h ⊢
  cases rest with
  | nil =>
    rw [runFrom_full _ issue 1 [] hfull] at h
    cases h
  | cons r later =>
    cases hvalue : r.value with
    | error f =>
      rw [runFrom_full _ issue 1 [] hfull] at h
      dsimp only at h
      rw [(runFrom_cons rfl r later).2, advance_of_error rfl hvalue, runFrom_over] at h
      cases h
    | ok known =>
      rw [runFrom_last _ issue hfull (hrest r rfl) hvalue] at h ⊢
      dsimp only at h ⊢
      -- after the last page there is one request left, a write, and its response is the outcome
      obtain ⟨f, hover⟩ | ⟨w, hwrite, hwriting⟩ :=
        afterReading_keep_cases issue body marker (full.flatMap Response.comments ++ r.comments)
      · rw [hover, runFrom_over] at h
        cases h
      · rw [hwriting] at h ⊢
        cases later with
        | nil => cases h
        | cons granted later =>
          rw [(runFrom_cons rfl granted later).2, advance, runFrom_over] at h
          refine ⟨full.length + 1, w, granted, by rw [requests_writing], hwrite, ?_, h⟩
          rw [List.getElem?_append_right (Nat.le_succ _), Nat.succ_sub (Nat.le_refl _), Nat.sub_self]
          rfl

/-- What is no list is taken for the last page, on which there are no comments. -/
theorem requests_keep_moved (issue : Issue) (body marker : String) {moved : Response} (granted : Response) {w : Json}
    (hmoved : moved.value = .ok w) (hlist : ∀ items, w ≠ .list items) :
    ((Errand.keep issue body marker).run [moved, granted]).requests = [.page issue 1, .create issue body] ∧
      ((Errand.keep issue body marker).run [moved, granted]).outcome = granted.value := by
  have hitems : moved.items = [] := by
    rw [Response.items, hmoved]
    cases w with
    | list items => exact absurd rfl (hlist items)
    | _ => rfl
  have hlast : ¬ moved.IsFull := by
    rw [Response.IsFull, hitems]
    decide
  have hcomments : moved.comments = [] := by
    rw [Response.comments, hitems]
    rfl
  have hnone : ∀ r ∈ ([] : List Response), r.IsFull := by simp
  have hrun := (Errand.keep issue body marker).runFrom_last issue hnone hlast hmoved [granted]
  rw [hcomments] at hrun
  rw [run, start]
  exact ⟨congrArg Exchange.requests hrun, congrArg Exchange.outcome hrun⟩

/-- **Success is that of the server, but for redirections.**  For every errand and all responses:

    1. A response of status 400 or more makes the errand fail with this status and its text.
    2. An errand comes to its end only over a response below 400 to each of its requests.
    3. Let no status be below 200 or from 300 to 399.  Then any response that is no success makes the
       errand fail with its status, so the errand comes to its end over successes only; and if it keeps
       a comment, the last request is one that writes, and the server has accepted it.
    4. All other statuses below 400 are taken for 200.
    5. So a comment is kept that way although neither the listing nor the writing has succeeded. -/
theorem run_success (e : Errand) (responses : List Response) :
    (∀ r ∈ e.received responses, 400 ≤ r.status →
      (e.run responses).outcome = .error (.refused r.status r.payload.plain)) ∧
    (∀ v, (e.run responses).outcome = .ok v →
      (e.received responses).length = (e.run responses).requests.length ∧ ∀ r ∈ e.received responses, r.status < 400) ∧
    ((∀ r ∈ e.received responses, r.Succeeds ∨ 400 ≤ r.status) →
      (∀ r ∈ e.received responses, ¬ r.Succeeds →
        (e.run responses).outcome = .error (.refused r.status r.payload.plain)) ∧
      ∀ v, (e.run responses).outcome = .ok v → (∀ r ∈ e.received responses, r.Succeeds) ∧
        ∀ issue body marker, e = .keep issue body marker →
          ∃ w ∈ (e.run responses).requests.getLast?, w.isWrite = true ∧
            ∃ r ∈ (e.received responses).getLast?, r.Succeeds ∧ r.value = .ok v) ∧
    ((e.run (responses.map Response.taken)).requests = (e.run responses).requests ∧
      (e.run (responses.map Response.taken)).outcome = (e.run responses).outcome) ∧
    ∀ issue body marker, e = .keep issue body marker → ∀ s t, s < 400 → t < 400 →
      ∀ moved w, (∀ items, moved ≠ .list items) →
        (e.run [⟨s, .json moved⟩, ⟨t, .json w⟩]).requests = [.page issue 1, .create issue body] ∧
          (e.run [⟨s, .json moved⟩, ⟨t, .json w⟩]).outcome = .ok w := by
  refine ⟨?_, ?_, ?_, ?_, ?_⟩
  · exact fun r hr hstatus => outcome_of_refusal hr hstatus
  · intro v h
    exact ⟨List.length_take_of_le (length_requests_le_of_ok h), status_lt_of_ok h⟩
  · intro hstatuses
    refine ⟨?_, ?_⟩
    · intro r hr hfails
      exact outcome_of_refusal hr ((hstatuses r hr).resolve_left hfails)
    · intro v h
      -- a status of 400 or more would have ended the run in an error
      have hall : ∀ r ∈ e.received responses, r.Succeeds := by
        intro r hr
        exact (hstatuses r hr).resolve_right (Nat.not_le_of_lt (status_lt_of_ok h r hr))
      refine ⟨hall, ?_⟩
      rintro issue body marker rfl
      obtain ⟨pages, w, r, hrequests, hwrite, hr, hvalue⟩ := exists_write_of_ok h
      have hlast : ((Errand.keep issue body marker).received responses).getLast? = some r := by
        rw [received, hrequests, List.length_append, List.length_singleton, length_firstPages,
          List.getLast?_take, Nat.add_sub_cancel, hr]
        rfl
      exact ⟨w, by rw [hrequests]; simp, hwrite, r, hlast, hall r (List.mem_of_getLast? hlast), hvalue⟩
  · rw [run, run, runFrom_map_taken]
    exact ⟨rfl, rfl⟩
  · rintro issue body marker rfl s t hs ht moved w hmoved
    have hmoves := requests_keep_moved issue body marker ⟨t, .json w⟩ (Response.value_of_lt ⟨s, .json moved⟩ hs) hmoved
    exact ⟨hmoves.1, hmoves.2.trans (Response.value_of_lt ⟨t, .json w⟩ ht)⟩

end Errand

end MergeGate.Discussion
