import MergeGate.Proofs.Check.Outcome
import MergeGate.Proofs.Report.Showing

/-
  MergeGate/Proofs/Check/Showing.lean
  ===================================
  **How a report is shown changes nothing else.**  Two runs that differ in the form of the report and in
  how much of it is told have the same exit code, and send the same requests to the same addresses, as
  long as the output takes what they print (`run_shownAs`).

  The judgement does not look at the form (`judge_shownAs`), but a form that could not be shown would end
  the run before anything is sent.  `checkedRun` is the run with this way out, and no run takes it
  (`checkedRun_eq`).
-/

namespace MergeGate

open MergeGate.Command MergeGate.Discussion

/-- The same options with another form of the report. -/
def Command.Options.shownAs (o : Options) (format : Format) (verbosity : Verbosity) : Options :=
  { o with format := format, verbosity := verbosity }

/-- A request as the server gets it. -/
structure Discussion.Sent where
  method : String
  address : String
  body? : Option Json

def Discussion.Access.send (a : Access) (r : Discussion.Request) : Sent := ⟨r.method, a.address r, r.payload?⟩

namespace Check

variable {o : Options} {s : Surroundings} {responses : List Response}

/-- The server that is asked, and the credential that it is shown. -/
def Judgement.access? (j : Judgement) : Option Access := j.errand?.map fun p => p.1.access

/-- What a run sends, in order. -/
def sent (o : Options) (s : Surroundings) (responses : List Response) : List Sent :=
  match (judge o s).1.toOption.bind Judgement.access? with
  | none => []
  | some access => (run o s responses).requests.map access.send

/-! ### Runs that may end where a report is shown -/

/-- What is printed of a report, if it can be shown. -/
def shown (o : Options) (r : Report) : Except Report.ShowFault String :=
  match o.format with
  | .json => r.checkedDocument none
  | .github => r.checkedComment Report.commentLimit
  | .text => r.checkedText o.verbosity

/-- What a judgement shows: a text that is printed, and a comment that is to be kept up to date. -/
def Judgement.showing (o : Options) :
    Judgement → Except Report.ShowFault (String × Option (CommentOrder × Errand))
  | .skipped => .ok ("", none)
  | .judged report _ none => do
    let text ← shown o report
    return (text, none)
  | .judged report _ (some order) => do
    let text ← shown o report
    let body ← report.checkedComment Report.commentLimit
    return (text, some (order, .keep order.issue body commentMarker))

/-- A run that ends if what it is to show cannot be shown. -/
def checkedRun (o : Options) (s : Surroundings) (responses : List Response) : Except Report.ShowFault Outcome :=
  match judge o s with
  | (.error f, notes) => .ok (failed o notes f)
  | (.ok judgement, notes) => do
    let (_, errand?) ← judgement.showing o
    return judgement.finish o notes ((errand?.map fun p => p.2.run responses).getD {})

theorem shown_eq {r : Report} {verdict : Verdict} (h : r.IsData) (hstatus : r.status? = .ok verdict.status)
    (o : Options) : shown o r = .ok (printed o verdict r) := by
  unfold shown printed
  cases o.format with
  | json => exact h.checkedDocument none
  | github => exact Report.checkedComment_eq hstatus Report.commentLimit
  | text => exact h.checkedText hstatus o.verbosity

/-- What a judgement is to show can be shown. -/
theorem showing_of_judge {j : Judgement} (h : (judge o s).1 = .ok j) : j.showing o = .ok (j.output o, j.errand?) := by
  cases (judges_iff o s _).mpr h with
  | skipped => rfl
  | judged hentered horder hevaluates =>
    rename_i root event order e
    have hstatus : (reportOf o s root e).status? = .ok e.verdict.status := Report.status?_ofVerdict _ _ _ _ _ _
    have hshown := shown_eq (isData_reportOf hevaluates) hstatus o
    cases order with
    | none =>
      rw [Judgement.showing, hshown]
      rfl
    | some order =>
      rw [Judgement.showing, hshown, Report.checkedComment_eq hstatus]
      rfl

/-- No run ends because its report cannot be shown. -/
theorem checkedRun_eq (o : Options) (s : Surroundings) (responses : List Response) :
    checkedRun o s responses = .ok (run o s responses) := by
  unfold checkedRun run
  rcases hjudge : judge o s with ⟨found, notes⟩
  cases found with
  | error f => rfl
  | ok j =>
    have hshowing : j.showing o = .ok (j.output o, j.errand?) := showing_of_judge (by rw [hjudge])
    dsimp only
    rw [hshowing, j.print_willing]
    rfl

/-- An output that takes what a run prints makes no difference to the run. -/
theorem run_of_taken {output : Output} (h : ∀ j, (judge o s).1 = .ok j → output.refusal? (j.output o) = none)
    (responses : List Response) : run o s responses output = run o s responses := by
  unfold run
  rcases hjudge : judge o s with ⟨found, notes⟩
  cases found with
  | error f => rfl
  | ok j =>
    have hprint : j.print o output = .ok () := by
      cases j with
      | skipped => rfl
      | judged report verdict order =>
        dsimp only [Judgement.print]
        rw [h _ (by rw [hjudge])]
    dsimp only
    rw [hprint, j.print_willing]

/-! ### Runs that differ in the form of the report -/

/-- The form of the report is not looked at before the judgement is complete. -/
theorem judge_shownAs (o : Options) (format : Format) (verbosity : Verbosity) (s : Surroundings) :
    judge (o.shownAs format verbosity) s = judge o s := rfl

/-- What a judgement leaves of its exchange: the exit code and the requests. -/
theorem finish_shownAs (o : Options) (format : Format) (verbosity : Verbosity) (notes : List Note)
    (exchange : Exchange) (j : Judgement) :
    (j.finish (o.shownAs format verbosity) notes exchange).exit = (j.finish o notes exchange).exit ∧
      (j.finish (o.shownAs format verbosity) notes exchange).requests = (j.finish o notes exchange).requests := by
  cases j with
  | skipped => exact ⟨rfl, rfl⟩
  | judged report verdict order =>
    cases order with
    | none => exact ⟨rfl, rfl⟩
    | some order =>
      dsimp only [Judgement.finish]
      cases exchange.outcome with
      | ok v => exact ⟨rfl, rfl⟩
      | error f => exact ⟨rfl, rfl⟩

theorem run_exit_requests (o : Options) (format : Format) (verbosity : Verbosity) (s : Surroundings)
    (responses : List Response) :
    (run (o.shownAs format verbosity) s responses).exit = (run o s responses).exit ∧
      (run (o.shownAs format verbosity) s responses).requests = (run o s responses).requests := by
  unfold run
  rw [judge_shownAs]
  rcases judge o s with ⟨found, notes⟩
  cases found with
  | error f => exact ⟨rfl, rfl⟩
  | ok j =>
    dsimp only
    rw [j.print_willing, j.print_willing]
    exact finish_shownAs o format verbosity notes _ j

theorem sent_shownAs (o : Options) (format : Format) (verbosity : Verbosity) (s : Surroundings)
    (responses : List Response) : sent (o.shownAs format verbosity) s responses = sent o s responses := by
  unfold sent
  rw [judge_shownAs, (run_exit_requests o format verbosity s responses).2]

/-- Every request that a run makes is sent. -/
theorem length_sent (o : Options) (s : Surroundings) (responses : List Response) :
    (sent o s responses).length = (run o s responses).requests.length := by
  unfold sent run
  rcases judge o s with ⟨found, notes⟩
  cases found with
  | error f => rfl
  | ok j =>
    cases j with
    | skipped => rfl
    | judged report verdict order =>
      cases order with
      | none => rfl
      | some order => exact List.length_map _

/-- **How a report is shown changes nothing else,** for all options, surroundings and responses, when it is
    printed to an output that takes every text.

    1. Runs that differ in the form of the report and in how much of it is told have the same exit code
       and send the same requests, with the same methods, addresses and bodies.
    2. No run ends because something cannot be shown, and every request of a run is among those sent.  A
       run that prints to an output which takes its text is the same run.
    3. The report on any evaluation can be shown in every form: as text however much is told, as a comment
       of any limit, and as a document of any indent. -/
theorem run_shownAs (o : Options) (s : Surroundings) (responses : List Response) :
    (∀ format verbosity format' verbosity',
      (run (o.shownAs format verbosity) s responses).exit = (run (o.shownAs format' verbosity') s responses).exit ∧
      sent (o.shownAs format verbosity) s responses = sent (o.shownAs format' verbosity') s responses) ∧
    (∀ format verbosity,
      checkedRun (o.shownAs format verbosity) s responses = .ok (run (o.shownAs format verbosity) s responses) ∧
      (sent (o.shownAs format verbosity) s responses).length =
        (run (o.shownAs format verbosity) s responses).requests.length ∧
      ∀ output : Output, (∀ j, (judge o s).1 = .ok j →
          output.refusal? (j.output (o.shownAs format verbosity)) = none) →
        run (o.shownAs format verbosity) s responses output = run (o.shownAs format verbosity) s responses) ∧
    (∀ absence policy facts e, Evaluation.evaluate absence policy facts = .ok e →
      ∀ tool version configPath metadata, Json.IsData (Json.maxDepth - 1) (.object metadata) →
      ∀ r, r = Report.ofVerdict tool version e.verdict e.violations configPath metadata →
        (∀ verbosity, ∃ text, r.checkedText verbosity = .ok text) ∧
        (∀ limit, ∃ text, r.checkedComment limit = .ok text) ∧
        ∀ indent, ∃ text, r.checkedDocument indent = .ok text) := by
  refine ⟨?_, ?_, ?_⟩
  · intro format verbosity format' verbosity'
    constructor
    · exact (run_exit_requests o format verbosity s responses).1.trans
        (run_exit_requests o format' verbosity' s responses).1.symm
    · exact (sent_shownAs o format verbosity s responses).trans (sent_shownAs o format' verbosity' s responses).symm
  · intro format verbosity
    refine ⟨checkedRun_eq _ s responses, length_sent _ s responses, ?_⟩
    intro output htaken
    exact run_of_taken htaken responses
  · rintro absence policy facts e hevaluate tool version configPath metadata hmetadata r rfl
    have hdata := Report.isData_ofVerdict hevaluate tool version configPath hmetadata
    have hstatus := Report.status?_ofVerdict tool version e.verdict e.violations configPath metadata
    refine ⟨?_, ?_, ?_⟩
    · exact fun verbosity => ⟨_, hdata.checkedText hstatus verbosity⟩
    · exact fun limit => ⟨_, Report.checkedComment_eq hstatus limit⟩
    · exact fun indent => ⟨_, hdata.checkedDocument indent⟩

end Check

end MergeGate
