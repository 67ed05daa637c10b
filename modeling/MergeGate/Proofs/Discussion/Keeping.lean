import MergeGate.Proofs.Discussion.Listing
import Mathlib.Data.List.TakeWhile

/-
  MergeGate/Proofs/Discussion/Keeping.lean
  ========================================
  **Reading before writing.**  Whatever a server responds, an errand that keeps a comment reads pages and
  then writes at most once (`Errand.keep_writes_once`).  A response without a value ends every errand at
  once (`Errand.runFrom_of_error`), so whoever writes has read all the pages, and the comments that were
  listed decide what is written (`Writes`).
-/

namespace MergeGate.Discussion

open MergeGate.Text

/-! ### Responses without a value -/

theorem Stage.over_or_asks (stage : Stage) :
    (∃ outcome, stage = .over outcome) ∨ ∃ request, stage.request? = some request := by
  cases stage with
  | reading issue page found => exact .inr ⟨_, rfl⟩
  | writing request => exact .inr ⟨_, rfl⟩
  | _ => exact .inl ⟨_, rfl⟩

namespace Errand

variable {e : Errand} {stage : Stage} {responses : List Response} {r : Response} {f : Failure}

theorem advance_of_error {request : Request} (hstage : stage.request? = some request)
    (hvalue : r.value = .error f) : (e.advance stage r).1 = .over (.error f) := by
  cases stage with
  | reading issue page found => rw [advance, hvalue]
  | writing written => rw [advance, hvalue]
  | _ => cases hstage

/-- A run is over, or asks and gets no response, or asks and goes on from the next stage. -/
theorem stages_induction (e : Errand) {motive : Stage → List Response → Prop}
    (ended : ∀ outcome rest, motive (.over outcome) rest)
    (unanswered : ∀ stage request, stage.request? = some request → motive stage [])
    (answered : ∀ stage request r rest, stage.request? = some request → motive (e.advance stage r).1 rest →
      motive stage (r :: rest))
    (stage : Stage) (responses : List Response) : motive stage responses := by
  induction responses generalizing stage with
  | nil =>
    obtain ⟨outcome, rfl⟩ | ⟨request, hstage⟩ := stage.over_or_asks
    · exact ended outcome []
    · exact unanswered stage request hstage
  | cons r rest ih =>
    obtain ⟨outcome, rfl⟩ | ⟨request, hstage⟩ := stage.over_or_asks
    · exact ended outcome (r :: rest)
    · exact answered stage request r rest hstage (ih (e.advance stage r).1)

/-- A response without a value is the last one, and tells why the errand fails. -/
theorem runFrom_of_error {i : Nat} (hresponse : responses[i]? = some r) (hvalue : r.value = .error f)
    (hasked : i < (e.runFrom stage responses).requests.length) :
    (e.runFrom stage responses).outcome = .error f ∧ (e.runFrom stage responses).requests.length = i + 1 := by
  induction stage, responses using e.stages_induction generalizing i with
  | ended outcome rest =>
    rw [runFrom_over] at hasked
    exact absurd hasked (Nat.not_lt_zero i)
  | unanswered stage request hstage => simp at hresponse
  | answered stage request s rest hstage ih =>
    obtain ⟨hrequests, houtcome⟩ := runFrom_cons hstage s rest
    rw [hrequests] at hasked ⊢
    rw [houtcome]
    cases i with
    | zero =>
      obtain rfl : s = r := by simpa using hresponse
      rw [advance_of_error hstage hvalue, runFrom_over]
      exact ⟨rfl, rfl⟩
    | succ i =>
      obtain ⟨hfails, hlength⟩ := ih hresponse (Nat.lt_of_succ_lt_succ hasked)
      exact ⟨hfails, congrArg Nat.succ hlength⟩

/-- Before the last request every response had a value. -/
theorem exists_value_before {i j : Nat} (hasked : i < (e.runFrom stage responses).requests.length) (hj : j < i) :
    ∃ r ∈ responses[j]?, ∃ v, r.value = .ok v := by
  induction stage, responses using e.stages_induction generalizing i j with
  | ended outcome rest =>
    rw [runFrom_over] at hasked
    exact absurd hasked (Nat.not_lt_zero i)
  | unanswered stage request hstage =>
    rw [runFrom_nil, hstage, Option.toList_some, List.length_singleton] at hasked
    omega
  | answered stage request s rest hstage ih =>
    rw [(runFrom_cons hstage s rest).1] at hasked
    cases i with
    | zero => exact absurd hj (Nat.not_lt_zero j)
    | succ i =>
      cases j with
      | succ j => exact ih (Nat.lt_of_succ_lt_succ hasked) (Nat.lt_of_succ_lt_succ hj)
      | zero =>
        cases hvalue : s.value with
        | ok v => exact ⟨s, rfl, v, hvalue⟩
        | error f =>
          rw [advance_of_error hstage hvalue, runFrom_over] at hasked
          exact absurd (Nat.lt_of_succ_lt_succ hasked) (Nat.not_lt_zero i)

end Errand

/-! ### Texts in which the marker is looked for -/

/-- The text of a listed comment; null is as good as an empty text, and no other value is a text. -/
def bodyText? (comment : Json) : Option String :=
  match (comment.get? "body").getD .null with
  | .text s => some s
  | .null => some ""
  | _ => none

def HoldsText (marker : String) (comment : Json) : Prop :=
  ∃ s ∈ bodyText? comment, marker.toList <:+: s.toList

section Texts

variable {c : Json} {listed : List Json}

theorem holdsMarker_of_bodyText (marker : String) (h : (bodyText? c).isSome) :
    ∃ held, holdsMarker marker c = .ok held ∧ (held = true ↔ HoldsText marker c) := by
  unfold bodyText? at h
  split at h
  · rename_i s hbody
    refine ⟨_, @holdsMarker_of_body c (some s) hbody marker, ?_⟩
    simp [holds_eq_true_iff, HoldsText, bodyText?, hbody]
  · rename_i hbody
    refine ⟨_, @holdsMarker_of_body c none hbody marker, ?_⟩
    simp [holds_eq_true_iff, HoldsText, bodyText?, hbody]
  · simp at h

/-- The target is the first comment whose text holds the marker. -/
theorem target?_cases (marker : String) (h : ∀ c ∈ listed, (bodyText? c).isSome) :
    (target? marker listed = .ok none ∧ ∀ c ∈ listed, ¬ HoldsText marker c) ∨
      ∃ before c after, listed = before ++ c :: after ∧ (∀ b ∈ before, ¬ HoldsText marker b) ∧ HoldsText marker c ∧
        target? marker listed = (c.get? "id").elim (.error .unnumbered) fun id => .ok (some id) := by
  induction listed with
  | nil => exact .inl ⟨rfl, by simp⟩
  | cons c rest ih =>
    rw [List.forall_mem_cons] at h
    obtain ⟨held, hheld, hiff⟩ := holdsMarker_of_bodyText marker h.1
    rw [target?, hheld]
    cases held with
    | true =>
      refine .inr ⟨[], c, rest, rfl, by simp, hiff.mp rfl, ?_⟩
      cases hid : c.get? "id" <;> rfl
    | false =>
      have hfree : ¬ HoldsText marker c := fun hholds => Bool.false_ne_true (hiff.mpr hholds)
      obtain ⟨htarget, hnone⟩ | ⟨before, d, after, rfl, hbefore, hholds, htarget⟩ := ih h.2
      · refine .inl ⟨htarget, ?_⟩
        rw [List.forall_mem_cons]
        exact ⟨hfree, hnone⟩
      · refine .inr ⟨c :: before, d, after, rfl, ?_, hholds, htarget⟩
        rw [List.forall_mem_cons]
        exact ⟨hfree, hbefore⟩

end Texts

/-! ### What is written -/

/-- What is written when these are all the comments: another text for the first that holds the marker, or
    a new comment if there is none.  A comment without a number cannot be written to. -/
inductive Writes (issue : Issue) (body marker : String) (listed : List Json) : Option Request → Prop where
  | replace {before after : List Json} {c id : Json} (hlisted : listed = before ++ c :: after)
      (hbefore : ∀ b ∈ before, ¬ HoldsText marker b) (hholds : HoldsText marker c) (hid : c.get? "id" = some id) :
      Writes issue body marker listed (some (.replace issue.repository id body))
  | unnumbered {before after : List Json} {c : Json} (hlisted : listed = before ++ c :: after)
      (hbefore : ∀ b ∈ before, ¬ HoldsText marker b) (hholds : HoldsText marker c) (hid : c.get? "id" = none) :
      Writes issue body marker listed none
  | create (hnone : ∀ c ∈ listed, ¬ HoldsText marker c) :
      Writes issue body marker listed (some (.create issue body))

namespace Errand

variable {issue : Issue}

theorem requests_writing (e : Errand) (request : Request) (rest : List Response) :
    (e.runFrom (.writing request) rest).requests = [request] := by
  cases rest with
  | nil => rfl
  | cons r rest => rw [(runFrom_cons rfl r rest).1, advance, runFrom_over]

theorem requests_afterReading (issue : Issue) (body marker : String) {listed : List Json}
    (h : ∀ c ∈ listed, (bodyText? c).isSome) (rest : List Response) :
    ∃ write?, Writes issue body marker listed write? ∧
      ((Errand.keep issue body marker).runFrom ((Errand.keep issue body marker).afterReading listed).1 rest).requests =
        write?.toList := by
  rw [afterReading]
  obtain ⟨htarget, hnone⟩ | ⟨before, c, after, hlisted, hbefore, hholds, htarget⟩ := target?_cases marker h
  · rw [htarget]
    exact ⟨_, .create hnone, requests_writing _ _ rest⟩
  · rw [htarget]
    cases hid : c.get? "id" with
    | none =>
      refine ⟨_, .unnumbered hlisted hbefore hholds hid, ?_⟩
      rw [Option.elim_none, runFrom_over]
      rfl
    | some id => exact ⟨_, .replace hlisted hbefore hholds hid, requests_writing _ _ rest⟩

/-- Pages that could not be read are followed by nothing. -/
theorem requests_unread (e : Errand) (issue : Issue) {full rest : List Response} (hfull : ∀ r ∈ full, r.IsFull)
    (hrest : ∀ r ∈ rest.head?, ∃ f, r.value = .error f) :
    (e.runFrom (.reading issue 1 []) (full ++ rest)).requests = firstPages issue (full.length + 1) := by
  rw [e.runFrom_full issue 1 [] hfull, firstPages_succ, Nat.add_comm 1]
  dsimp only
  rw [firstPages, List.append_cancel_left_eq]
  cases rest with
  | nil => rfl
  | cons r rest =>
    obtain ⟨f, hvalue⟩ := hrest r rfl
    rw [(runFrom_cons rfl r rest).1, advance_of_error rfl hvalue, runFrom_over]

/-- Responses are full pages and then, if there are more, one that is no full page. -/
theorem exists_full_append (responses : List Response) :
    ∃ full rest : List Response, responses = full ++ rest ∧ (∀ r ∈ full, r.IsFull) ∧ ∀ r ∈ rest.head?, ¬ r.IsFull := by
  refine ⟨responses.takeWhile fun r => r.IsFull, responses.dropWhile fun r => r.IsFull,
    List.takeWhile_append_dropWhile.symm, ?_, ?_⟩
  · intro r hr
    simpa using List.mem_takeWhile_imp hr
  · intro r hr
    have hnot := List.head?_dropWhile_not (fun r : Response => decide r.IsFull) responses
    rw [Option.mem_def.mp hr] at hnot
    simpa using hnot

theorem isWrite_of_mem_firstPages {k : Nat} {request : Request} (h : request ∈ firstPages issue k) :
    request.isWrite = false := by
  obtain ⟨page, -, rfl⟩ := List.mem_map.mp h
  rfl

/-- The requests of an errand that keeps a comment, on full pages and what follows them. -/
theorem requests_keep (issue : Issue) (body marker : String) {full rest : List Response}
    (hfull : ∀ r ∈ full, r.IsFull) (hrest : ∀ r ∈ rest.head?, ¬ r.IsFull)
    (hbodies : ∀ r ∈ full ++ rest, ∀ c ∈ r.comments, (bodyText? c).isSome) :
    ∃ write?, ((Errand.keep issue body marker).run (full ++ rest)).requests =
        firstPages issue (full.length + 1) ++ Option.toList write? ∧
      ((∀ r ∈ rest.head?, ∃ f, r.value = .error f) ∧ write? = none ∨
        ∃ r ∈ rest.head?, ∃ v, r.value = .ok v ∧
          Writes issue body marker (full.flatMap Response.comments ++ r.comments) write?) := by
  rw [run, start]
  -- the first response that is not a full page is missing, cannot be read, or ends the listing
  cases rest with
  | nil =>
    have hunread : ∀ s ∈ ([] : List Response).head?, ∃ f, s.value = .error f := by simp
    refine ⟨none, ?_, .inl ⟨hunread, rfl⟩⟩
    rw [requests_unread _ issue hfull hunread, Option.toList_none, List.append_nil]
  | cons r later =>
    cases hvalue : r.value with
    | error f =>
      have hunread : ∀ s ∈ (r :: later).head?, ∃ f, s.value = .error f := by simp [hvalue]
      refine ⟨none, ?_, .inl ⟨hunread, rfl⟩⟩
      rw [requests_unread _ issue hfull hunread, Option.toList_none, List.append_nil]
    | ok v =>
      have hlisted : ∀ c ∈ full.flatMap Response.comments ++ r.comments, (bodyText? c).isSome := by
        intro c hc
        rw [List.mem_append, List.mem_flatMap] at hc
        rcases hc with ⟨page, hpage, hc⟩ | hc
        · exact hbodies page (List.mem_append_left _ hpage) c hc
        · exact hbodies r (by simp) c hc
      obtain ⟨write?, hwrites, hrequests⟩ := requests_afterReading issue body marker hlisted later
      refine ⟨write?, ?_, .inr ⟨r, rfl, v, hvalue, hwrites⟩⟩
      rw [runFrom_last _ issue hfull (hrest r rfl) hvalue]
      dsimp only
      rw [hrequests]

theorem write_is_last {requests : List Request} {k i : Nat} {write? : Option Request} {request : Request}
    (hrequests : requests = firstPages issue k ++ write?.toList) (hi : requests[i]? = some request)
    (hwrite : request.isWrite = true) : i + 1 = requests.length := by
  rw [hrequests, List.length_append, length_firstPages]
  rw [hrequests, List.getElem?_append, length_firstPages] at hi
  split at hi
  · rw [isWrite_of_mem_firstPages (List.mem_of_getElem? hi)] at hwrite
    cases hwrite
  · cases write? with
    | none => simp at hi
    | some w =>
      rw [Option.toList_some, List.getElem?_singleton] at hi
      split at hi
      · rw [Option.toList_some, List.length_singleton]
        omega
      · cases hi

/-- **Nothing is written after a failed reading, and nothing is written twice.**  The server responds
    with anything to the requests of an errand that keeps a comment; only the bodies of listed comments
    are texts or null, if they are there.

    1. The requests are those for the pages, up to the first response that is no full page, and then at
       most one other.  If this response has a value, the comments that were listed decide what is
       written; otherwise nothing is.
    2. What is written is written last, and after responses that all had a value.
    3. A refusal is told with its status and text, and nothing follows it. -/
theorem keep_writes_once (issue : Issue) (body marker : String) {responses : List Response}
    (hbodies : ∀ r ∈ responses, ∀ c ∈ r.comments, (bodyText? c).isSome) :
    let exchange := (Errand.keep issue body marker).run responses
    (∃ full rest write?, responses = full ++ rest ∧ (∀ r ∈ full, r.IsFull) ∧ (∀ r ∈ rest.head?, ¬ r.IsFull) ∧
      exchange.requests = firstPages issue (full.length + 1) ++ Option.toList write? ∧
      ((∀ r ∈ rest.head?, ∃ f, r.value = .error f) ∧ write? = none ∨
        ∃ r ∈ rest.head?, ∃ v, r.value = .ok v ∧
          Writes issue body marker (full.flatMap Response.comments ++ r.comments) write?)) ∧
    (∀ i request, exchange.requests[i]? = some request → request.isWrite = true →
      i + 1 = exchange.requests.length ∧ ∀ j < i, ∃ r ∈ responses[j]?, ∃ v, r.value = .ok v) ∧
    ∀ i r, responses[i]? = some r → i < exchange.requests.length → 400 ≤ r.status →
      exchange.outcome = .error (.refused r.status r.payload.plain) ∧ exchange.requests.length = i + 1 := by
  intro exchange
  obtain ⟨full, rest, rfl, hfull, hrest⟩ := exists_full_append responses
  obtain ⟨write?, hrequests, hwrites⟩ := requests_keep issue body marker hfull hrest hbodies
  refine ⟨⟨full, rest, write?, rfl, hfull, hrest, hrequests, hwrites⟩, ?_, ?_⟩
  · intro i request hi hwrite
    refine ⟨write_is_last hrequests hi hwrite, ?_⟩
    intro j hj
    exact exists_value_before (List.getElem?_eq_some_iff.mp hi).1 hj
  · intro i r hr hi hstatus
    exact runFrom_of_error hr (r.value_of_refusal hstatus) hi

end Errand

/-- A full page without comments, a page with a comment that has no text and one that holds the marker,
    and a refusal. -/
def troubledScript : List Response :=
  [⟨200, .json (.list (List.replicate 100 .null))⟩,
    ⟨200, .json (.list [.object [("id", .int 1), ("body", .null)], .object [("id", .int 2), ("body", .text "<!-- m -->")]])⟩,
    ⟨502, .text "Bad Gateway"⟩]

/-- The comment with the marker is written to, and the refusal is told. -/
theorem Errand.keep_writes_once_troubledScript :
    let exchange := (Errand.keep ⟨"octo/app", .figure 7⟩ "<!-- m --> fine" "<!-- m -->").run troubledScript
    (∀ r ∈ troubledScript, ∀ c ∈ r.comments, (bodyText? c).isSome) ∧
      exchange.requests[2]? = some (.replace "octo/app" (.int 2) "<!-- m --> fine") ∧ exchange.requests.length = 3 ∧
      exchange.outcome = .error (.refused 502 "Bad Gateway") := by
  intro exchange
  have hbodies : ∀ r ∈ troubledScript, ∀ c ∈ r.comments, (bodyText? c).isSome := by
    decide
  have hwritten : exchange.requests[2]? = some (.replace "octo/app" (.int 2) "<!-- m --> fine") := rfl
  have hasked : 2 < exchange.requests.length := (List.getElem?_eq_some_iff.mp hwritten).1
  obtain ⟨houtcome, hlength⟩ := (Errand.keep_writes_once ⟨"octo/app", .figure 7⟩ "<!-- m --> fine" "<!-- m -->"
    hbodies).2.2 2 ⟨502, .text "Bad Gateway"⟩ rfl hasked (by decide)
  exact ⟨hbodies, hwritten, hlength, houtcome⟩

end MergeGate.Discussion
