import MergeGate.Check

/-
  MergeGate/Proofs/Check/Judging.lean
  ===================================
  **How a run comes to its judgement.**  `Loads`, `Evaluates` and `Judges` tell, one case per way, what
  can come of reading the policy, of the evaluation, and of all that happens before something is
  printed: which step fails first and by what, or that the run is skipped, or what is judged.

  The steps of a run also leave notes, which no step looks at (`Step.Gives`).  So each way determines
  what the run does, and as there is a way for every run, the cases are exactly what the run computes
  (`judges_iff`).
-/

namespace MergeGate.Check

open MergeGate.Command

/-! ### Steps -/

namespace Step

variable {α β ε : Type}

/-- A step comes to a result, whatever notes were left before it. -/
def Gives (x : Step α) (r : Except Failure α) : Prop := ∀ notes, (x.run notes).1 = r

theorem gives_pure (a : α) : (pure a : Step α).Gives (.ok a) := fun _ => rfl

theorem gives_throw (f : Failure) : (throw f : Step α).Gives (.error f) := fun _ => rfl

theorem run_bind (x : Step α) (k : α → Step β) (notes : List Note) :
    (x >>= k).run notes =
      match x.run notes with
      | (.ok a, later) => (k a).run later
      | (.error f, later) => (.error f, later) := by
  rw [ExceptT.run_bind]
  simp only [bind, StateT.bind]
  rcases x.run notes with ⟨r, later⟩
  cases r <;> rfl

theorem Gives.bind {x : Step α} {k : α → Step β} {a : α} {r : Except Failure β} (hx : x.Gives (.ok a))
    (hk : (k a).Gives r) : (x >>= k).Gives r := by
  intro notes
  have hvalue := hx notes
  rw [run_bind]
  rcases hrun : x.run notes with ⟨value, later⟩
  rw [hrun] at hvalue
  cases hvalue
  exact hk later

theorem Gives.bind_error {x : Step α} {f : Failure} (hx : x.Gives (.error f)) (k : α → Step β) :
    (x >>= k).Gives (.error f) := by
  intro notes
  have hvalue := hx notes
  rw [run_bind]
  rcases hrun : x.run notes with ⟨value, later⟩
  rw [hrun] at hvalue
  cases hvalue
  rfl

theorem Gives.lift_ok {failure : ε → Failure} {x : Except ε α} {k : α → Step β} {a : α}
    {r : Except Failure β} (hx : x = .ok a) (hk : (k a).Gives r) : (lift failure x >>= k).Gives r := by
  subst hx
  exact Gives.bind (gives_pure a) hk

theorem Gives.lift_error (failure : ε → Failure) {x : Except ε α} {e : ε} (hx : x = .error e)
    (k : α → Step β) : (lift failure x >>= k).Gives (.error (failure e)) := by
  subst hx
  exact Gives.bind_error (gives_throw (failure e)) k

theorem Gives.leave (notes : List Note) {k : Unit → Step β} {r : Except Failure β} (hk : (k ()).Gives r) :
    (leave notes >>= k).Gives r :=
  Gives.bind (fun _ => rfl) hk

end Step

/-! ### What is asked of the surroundings -/

/-- The credential is there and not empty. -/
def HasCredential (s : Surroundings) : Prop := ∃ token, s.settings.lookup tokenVariable = some token ∧ token ≠ ""

/-- The event is one of a pull request, and its repository is known. -/
def OnPull (event : Option Event) : Prop :=
  ∃ e pull repository, event = some e ∧ e.pullRequest = some pull ∧ e.repository = some repository ∧
    repository ≠ ""

theorem credential_cases (s : Surroundings) :
    (HasCredential s ∧ ∃ token, credential s.settings tokenVariable = .ok token) ∨
      (¬ HasCredential s ∧ credential s.settings tokenVariable = .error tokenVariable) := by
  unfold HasCredential credential
  cases s.settings.lookup tokenVariable with
  | none => exact .inr ⟨by simp, rfl⟩
  | some token =>
    by_cases htoken : token = ""
    · exact .inr ⟨by simp [htoken], by simp [htoken]⟩
    · exact .inl ⟨⟨token, rfl, htoken⟩, token, by simp [htoken]⟩

theorem orderOf_cases (s : Surroundings) (token : String) (event : Option Event) :
    (OnPull event ∧ ∃ order, orderOf s token event = some order) ∨
      (¬ OnPull event ∧ orderOf s token event = none) := by
  unfold OnPull orderOf
  cases event with
  | none => exact .inr ⟨by simp, rfl⟩
  | some e =>
    cases hpull : e.pullRequest with
    | none => exact .inr ⟨by simp [hpull], by simp [hpull]⟩
    | some pull =>
      cases hrepository : e.repository with
      | none => exact .inr ⟨by simp [hrepository], by simp [hrepository]⟩
      | some repository =>
        by_cases hempty : repository = ""
        · exact .inr ⟨by simp [hrepository, hempty], by simp [hpull, hrepository, hempty]⟩
        · exact .inl ⟨⟨e, pull, repository, rfl, hpull, hrepository, hempty⟩,
            ⟨_, by simp [hpull, hrepository, Option.filter, hempty]; rfl⟩⟩

/-! ### Ways of a run -/

variable {o : Options} {s : Surroundings} {root : Path} {event : Option Event}

inductive Loads (o : Options) (s : Surroundings) (root : Path) : Except Failure (Option Policy) → Prop where
  | unreadable {f : PathFault} (h : s.octets? (policyPath o s root) = .error f) :
      Loads o s root (.error (.path f))
  | refused {octets : Option (List UInt8)} {f : Policy.Failure}
      (hfile : s.octets? (policyPath o s root) = .ok octets)
      (h : Policy.ofFile .utf8 (policyPath o s root) octets = .error f) : Loads o s root (.error (.policy f))
  | loaded {octets : Option (List UInt8)} {policy : Option Policy} {notes : List Note}
      (hfile : s.octets? (policyPath o s root) = .ok octets)
      (h : Policy.ofFile .utf8 (policyPath o s root) octets = .ok (policy, notes)) :
      Loads o s root (.ok policy)

inductive Evaluates (o : Options) (s : Surroundings) (root : Path) (event : Option Event) :
    Except Failure Evaluation → Prop where
  | unloaded {f : Failure} (h : Loads o s root (.error f)) : Evaluates o s root event (.error f)
  | unreadable {policy : Option Policy} {f : PathFault} (hpolicy : Loads o s root (.ok policy))
      (h : s.octets? (lockfileOf root o policy) = .error f) : Evaluates o s root event (.error (.path f))
  | stopped {policy : Option Policy} {octets : Option (List UInt8)} {c : Pattern.Cause}
      (hpolicy : Loads o s root (.ok policy)) (hlockfile : s.octets? (lockfileOf root o policy) = .ok octets)
      (h : Evaluation.evaluate Evaluation.defaultAbsence policy
        (factsOf o s root event (lockfileOf root o policy) octets) = .error c) :
      Evaluates o s root event (.error (.pattern c))
  /-- A required file cannot be looked for. -/
  | unsearchable {policy : Option Policy} {octets : Option (List UInt8)} {e : Evaluation} {f : PathFault}
      (hpolicy : Loads o s root (.ok policy)) (hlockfile : s.octets? (lockfileOf root o policy) = .ok octets)
      (h : Evaluation.evaluate Evaluation.defaultAbsence policy
        (factsOf o s root event (lockfileOf root o policy) octets) = .ok e)
      (hsearch : unsearchable? s root policy = some f) : Evaluates o s root event (.error (.path f))
  | evaluated {policy : Option Policy} {octets : Option (List UInt8)} {e : Evaluation}
      (hpolicy : Loads o s root (.ok policy)) (hlockfile : s.octets? (lockfileOf root o policy) = .ok octets)
      (h : Evaluation.evaluate Evaluation.defaultAbsence policy
        (factsOf o s root event (lockfileOf root o policy) octets) = .ok e)
      (hsearch : unsearchable? s root policy = none) : Evaluates o s root event (.ok e)

/-- The root of the checkout is there, and the event is known. -/
def Entered (o : Options) (s : Surroundings) (root : Path) (event : Option Event) : Prop :=
  Checkout.root s o.path = .ok root ∧ ∃ notes, Event.ofSurroundings s = .ok (event, notes)

/-- The comment that a run goes on to write, if it goes on. -/
inductive Orders (o : Options) (s : Surroundings) (event : Option Event) : Option CommentOrder → Prop where
  | unasked (hcomment : o.comment = false) : Orders o s event none
  | asked {token : String} {order : CommentOrder} (hcomment : o.comment = true)
      (hcredential : credential s.settings tokenVariable = .ok token)
      (horder : orderOf s token event = some order) : Orders o s event (some order)

inductive Judges (o : Options) (s : Surroundings) : Except Failure Judgement → Prop where
  | unrooted {f : RootFault} (h : Checkout.root s o.path = .error f) : Judges o s (.error (.root f))
  | unread {root : Path} {f : EventFault} (hroot : Checkout.root s o.path = .ok root)
      (h : Event.ofSurroundings s = .error f) : Judges o s (.error (.event f))
  | uncredited {root : Path} {event : Option Event} (hentered : Entered o s root event)
      (hcomment : o.comment = true) (h : ¬ HasCredential s) : Judges o s (.error (.credential tokenVariable))
  | skipped {root : Path} {event : Option Event} (hentered : Entered o s root event)
      (hcomment : o.comment = true) (hcredential : HasCredential s) (h : ¬ OnPull event) :
      Judges o s (.ok .skipped)
  | failed {root : Path} {event : Option Event} {order : Option CommentOrder} {f : Failure}
      (hentered : Entered o s root event) (horder : Orders o s event order)
      (h : Evaluates o s root event (.error f)) : Judges o s (.error f)
  | judged {root : Path} {event : Option Event} {order : Option CommentOrder} {e : Evaluation}
      (hentered : Entered o s root event) (horder : Orders o s event order)
      (h : Evaluates o s root event (.ok e)) : Judges o s (.ok (.judged (reportOf o s root e) e.verdict order))

/-! ### There is a way for every run -/

theorem exists_loads (o : Options) (s : Surroundings) (root : Path) : ∃ r, Loads o s root r := by
  cases hfile : s.octets? (policyPath o s root) with
  | error f => exact ⟨_, .unreadable hfile⟩
  | ok octets =>
    cases h : Policy.ofFile .utf8 (policyPath o s root) octets with
    | error f => exact ⟨_, .refused hfile h⟩
    | ok loaded => exact ⟨_, .loaded hfile h⟩

theorem exists_evaluates (o : Options) (s : Surroundings) (root : Path) (event : Option Event) :
    ∃ r, Evaluates o s root event r := by
  obtain ⟨r, hloads⟩ := exists_loads o s root
  cases r with
  | error f => exact ⟨_, .unloaded hloads⟩
  | ok policy =>
    cases hlockfile : s.octets? (lockfileOf root o policy) with
    | error f => exact ⟨_, .unreadable hloads hlockfile⟩
    | ok octets =>
      cases h : Evaluation.evaluate Evaluation.defaultAbsence policy
          (factsOf o s root event (lockfileOf root o policy) octets) with
      | error c => exact ⟨_, .stopped hloads hlockfile h⟩
      | ok e =>
        cases hsearch : unsearchable? s root policy with
        | some t => exact ⟨_, .unsearchable hloads hlockfile h hsearch⟩
        | none => exact ⟨_, .evaluated hloads hlockfile h hsearch⟩

theorem exists_judges_of_orders {order : Option CommentOrder} (hentered : Entered o s root event)
    (horder : Orders o s event order) : ∃ r, Judges o s r := by
  obtain ⟨r, hevaluates⟩ := exists_evaluates o s root event
  cases r with
  | error f => exact ⟨_, .failed hentered horder hevaluates⟩
  | ok e => exact ⟨_, .judged hentered horder hevaluates⟩

theorem exists_judges (o : Options) (s : Surroundings) : ∃ r, Judges o s r := by
  cases hroot : Checkout.root s o.path with
  | error f => exact ⟨_, .unrooted hroot⟩
  | ok root =>
    cases hevent : Event.ofSurroundings s with
    | error f => exact ⟨_, .unread hroot hevent⟩
    | ok known =>
      have hentered : Entered o s root known.1 := ⟨hroot, known.2, hevent⟩
      cases hcomment : o.comment with
      | false => exact exists_judges_of_orders hentered (.unasked hcomment)
      | true =>
        rcases credential_cases s with ⟨hhas, token, htoken⟩ | ⟨hnone, -⟩
        · rcases orderOf_cases s token known.1 with ⟨-, order, horder⟩ | ⟨hnot, -⟩
          · exact exists_judges_of_orders hentered (.asked hcomment htoken horder)
          · exact ⟨_, .skipped hentered hcomment hhas hnot⟩
        · exact ⟨_, .uncredited hentered hcomment hnone⟩

/-! ### A run goes this way -/

theorem Loads.gives {r : Except Failure (Option Policy)} (h : Loads o s root r) :
    (readPolicy s (policyPath o s root)).Gives r := by
  rw [readPolicy]
  cases h with
  | unreadable h => exact Step.Gives.lift_error .path h _
  | refused hfile h =>
    refine Step.Gives.lift_ok hfile ?_
    exact Step.Gives.lift_error .policy h _
  | loaded hfile h =>
    refine Step.Gives.lift_ok hfile ?_
    refine Step.Gives.lift_ok h ?_
    exact Step.Gives.leave _ (Step.gives_pure _)

theorem Evaluates.gives {r : Except Failure Evaluation} (h : Evaluates o s root event r) :
    (reportOn o s root event).Gives (r.map fun e => (reportOf o s root e, e.verdict)) := by
  rw [reportOn]
  cases h with
  | unloaded h => exact Step.Gives.bind_error h.gives _
  | unreadable hpolicy h =>
    refine Step.Gives.bind hpolicy.gives (Step.Gives.leave _ ?_)
    exact Step.Gives.lift_error .path h _
  | stopped hpolicy hlockfile h =>
    refine Step.Gives.bind hpolicy.gives (Step.Gives.leave _ ?_)
    refine Step.Gives.lift_ok hlockfile ?_
    exact Step.Gives.lift_error .pattern h _
  | unsearchable hpolicy hlockfile h hsearch =>
    refine Step.Gives.bind hpolicy.gives (Step.Gives.leave _ ?_)
    refine Step.Gives.lift_ok hlockfile (Step.Gives.lift_ok h ?_)
    rw [hsearch]
    exact Step.gives_throw _
  | evaluated hpolicy hlockfile h hsearch =>
    refine Step.Gives.bind hpolicy.gives (Step.Gives.leave _ ?_)
    refine Step.Gives.lift_ok hlockfile (Step.Gives.lift_ok h ?_)
    rw [hsearch]
    exact Step.Gives.leave _ (Step.gives_pure _)

theorem Evaluates.gives_judged {r : Except Failure Evaluation} (h : Evaluates o s root event r)
    (order : Option CommentOrder) :
    (reportOn o s root event >>= fun p => pure (.judged p.1 p.2 order) : Step Judgement).Gives
      (r.map fun e => .judged (reportOf o s root e) e.verdict order) := by
  have hgives := h.gives
  cases r with
  | error f => exact hgives.bind_error _
  | ok e => exact hgives.bind (Step.gives_pure _)

theorem Orders.gives {order : Option CommentOrder} {r : Except Failure Evaluation}
    (hentered : Entered o s root event) (horder : Orders o s event order) (h : Evaluates o s root event r) :
    (judging o s).Gives (r.map fun e => .judged (reportOf o s root e) e.verdict order) := by
  obtain ⟨hroot, notes, hevent⟩ := hentered
  refine Step.Gives.lift_ok hroot (Step.Gives.lift_ok hevent (Step.Gives.leave _ ?_))
  cases horder with
  | unasked hcomment =>
    simp only [hcomment, Bool.false_eq_true, if_false]
    exact h.gives_judged none
  | asked hcomment hcredential horder =>
    rename_i token order
    simp only [hcomment, if_true]
    refine Step.Gives.lift_ok hcredential ?_
    simp only [horder]
    exact h.gives_judged (some order)

theorem Judges.gives {r : Except Failure Judgement} (h : Judges o s r) : (judging o s).Gives r := by
  cases h with
  | unrooted h => exact Step.Gives.lift_error .root h _
  | unread hroot h => exact Step.Gives.lift_ok hroot (Step.Gives.lift_error .event h _)
  | uncredited hentered hcomment h =>
    obtain ⟨hroot, notes, hevent⟩ := hentered
    refine Step.Gives.lift_ok hroot (Step.Gives.lift_ok hevent (Step.Gives.leave _ ?_))
    simp only [hcomment, if_true]
    rcases credential_cases s with ⟨hhas, -⟩ | ⟨-, hnone⟩
    · exact absurd hhas h
    · exact Step.Gives.lift_error .credential hnone _
  | skipped hentered hcomment hcredential h =>
    obtain ⟨hroot, notes, hevent⟩ := hentered
    refine Step.Gives.lift_ok hroot (Step.Gives.lift_ok hevent (Step.Gives.leave _ ?_))
    simp only [hcomment, if_true]
    rcases credential_cases s with ⟨-, token, htoken⟩ | ⟨hnone, -⟩
    · refine Step.Gives.lift_ok htoken ?_
      rename_i event
      rcases orderOf_cases s token event with ⟨hpull, -⟩ | ⟨-, hskip⟩
      · exact absurd hpull h
      · simp only [hskip]
        exact Step.gives_pure _
    · exact absurd hcredential hnone
  | failed hentered horder h => exact Orders.gives hentered horder h
  | judged hentered horder h => exact Orders.gives hentered horder h

/-- **The ways of a run are what it computes.** -/
theorem judges_iff (o : Options) (s : Surroundings) (r : Except Failure Judgement) :
    Judges o s r ↔ (judge o s).1 = r := by
  constructor
  · exact fun h => h.gives []
  · rintro rfl
    obtain ⟨r, h⟩ := exists_judges o s
    have hr : (judge o s).1 = r := h.gives []
    rwa [hr]

end MergeGate.Check
