import MergeGate.Proofs.Check.Judging
import MergeGate.Proofs.Report.Showing

/-
  MergeGate/Proofs/Check/Outcome.lean
  ===================================
  **Exit codes and effects of a run.**  A run fails, is skipped, or judges a checkout.  The exit code
  tells which: two for a failure, one for a failing verdict, zero for any other verdict and for a run
  that is skipped.  What a run does comes in one order only: nothing until the judgement is complete,
  then the report is printed, and only then the server is asked (`run_coherent`).

  Whatever is asked of the surroundings may be refused, and so may the text that is printed.  A run that
  fails so has done nothing (`Raises.ends`).
-/

namespace MergeGate.Check

open MergeGate.Command

variable {o : Options} {s : Surroundings} {responses : List Discussion.Response} {output : Output}

/-! ### Kinds of runs -/

/-- Why a run fails: it does not come to a judgement, the output refuses the report, or the exchange with
    the server fails. -/
inductive Raises (o : Options) (s : Surroundings) (responses : List Discussion.Response) (output : Output) :
    Failure → Prop where
  | judging {f : Failure} (h : Judges o s (.error f)) : Raises o s responses output f
  | printing {report : Report} {verdict : Verdict} {order : Option CommentOrder} {message : String}
      (hjudges : Judges o s (.ok (.judged report verdict order)))
      (h : output.refusal? (printed o verdict report) = some message) : Raises o s responses output (.output message)
  | discussing {report : Report} {verdict : Verdict} {order : CommentOrder} {f : Discussion.Failure}
      (hjudges : Judges o s (.ok (.judged report verdict (some order))))
      (hprinted : output.refusal? (printed o verdict report) = none)
      (h : ((errandOf order verdict report).run responses).outcome = .error f) :
      Raises o s responses output (.discussion f)

/-- A run has nothing to do: it is to write a comment, and there is no pull request to write it to. -/
def Skips (o : Options) (s : Surroundings) : Prop :=
  ∃ root event, Entered o s root event ∧ o.comment = true ∧ HasCredential s ∧ ¬ OnPull event

/-- A run comes to an evaluation; if it is to write a comment, it can. -/
def Evaluated (o : Options) (s : Surroundings) (root : Path) (e : Evaluation) : Prop :=
  ∃ event, Entered o s root event ∧ (o.comment = true → HasCredential s ∧ OnPull event) ∧
    Evaluates o s root event (.ok e)

/-- The text of a report in the form that is asked for. -/
def Rendered (o : Options) (report : Report) (text : String) : Prop :=
  match o.format with
  | .json => text = report.toDocument none
  | .github => report.toComment Report.commentLimit = .ok text
  | .text => report.toText o.verbosity = .ok text

theorem Orders.permitted {event : Option Event} {order : CommentOrder} (h : Orders o s event (some order)) :
    o.comment = true ∧ HasCredential s ∧ OnPull event := by
  cases h with
  | asked hcomment hcredential horder =>
    refine ⟨hcomment, ?_, ?_⟩
    · rcases credential_cases s with ⟨hhas, -⟩ | ⟨-, hnone⟩
      · exact hhas
      · cases hcredential.symm.trans hnone
    · rcases orderOf_cases s _ event with ⟨hpull, -⟩ | ⟨-, hskip⟩
      · exact hpull
      · cases horder.symm.trans hskip

theorem Orders.evaluated {root : Path} {event : Option Event} {order : Option CommentOrder} {e : Evaluation}
    (hentered : Entered o s root event) (horder : Orders o s event order)
    (h : Evaluates o s root event (.ok e)) : Evaluated o s root e := by
  refine ⟨event, hentered, ?_, h⟩
  -- an order is there exactly if a comment is asked for, and it needs both
  intro hcomment
  cases order with
  | some order => exact horder.permitted.2
  | none =>
    cases horder with
    | unasked hnot => cases hcomment.symm.trans hnot

theorem Evaluated.judges {root : Path} {e : Evaluation} (h : Evaluated o s root e) :
    ∃ order, Judges o s (.ok (.judged (reportOf o s root e) e.verdict order)) := by
  obtain ⟨event, hentered, hpermitted, hevaluates⟩ := h
  cases hcomment : o.comment with
  | false => exact ⟨none, .judged hentered (.unasked hcomment) hevaluates⟩
  | true =>
    obtain ⟨hcredential, hpull⟩ := hpermitted hcomment
    rcases credential_cases s with ⟨-, token, htoken⟩ | ⟨hnone, -⟩
    · rcases orderOf_cases s token event with ⟨-, order, horder⟩ | ⟨hnot, -⟩
      · exact ⟨some order, .judged hentered (.asked hcomment htoken horder) hevaluates⟩
      · exact absurd hpull hnot
    · exact absurd hcredential hnone

/-! ### Printing -/

theorem output_of_effects {x : Outcome} {text : String} {requests : List Discussion.Request}
    (h : x.effects = .printed text :: requests.map .asked) : x.output = text := by
  have hasked : (requests.map Effect.asked).filterMap Effect.text? = [] := by simp [Effect.text?]
  rw [Outcome.output, h, List.filterMap_cons, hasked]
  simp [Effect.text?, String.join]

theorem requests_of_effects {x : Outcome} {text : String} {requests : List Discussion.Request}
    (h : x.effects = .printed text :: requests.map .asked) : x.requests = requests := by
  rw [Outcome.requests, h, List.filterMap_cons, List.filterMap_map]
  simp [Effect.request?, Function.comp_def]

theorem rendered_printed (o : Options) (s : Surroundings) (root : Path) (e : Evaluation) :
    Rendered o (reportOf o s root e) (printed o e.verdict (reportOf o s root e)) := by
  have hstatus : (reportOf o s root e).status? = .ok e.verdict.status := Report.status?_ofVerdict _ _ _ _ _ _
  unfold Rendered printed
  cases o.format with
  | json => rfl
  | github =>
    rw [Report.toComment, hstatus]
    rfl
  | text =>
    rw [Report.toText, hstatus]
    rfl

/-! ### What comes of each kind -/

theorem run_of_judges {r : Except Failure Judgement} (h : Judges o s r)
    (responses : List Discussion.Response) (output : Output) :
    ∃ notes, run o s responses output = match r with
      | .error f => failed o notes f
      | .ok j => match j.print o output with
        | .error f => failed o notes f
        | .ok () => j.finish o notes ((j.errand?.map fun p => p.2.run responses).getD {}) := by
  have hjudge := (judges_iff o s r).mp h
  unfold run
  rcases hrun : judge o s with ⟨found, notes⟩
  rw [hrun] at hjudge
  cases hjudge
  exact ⟨notes, by cases found <;> rfl⟩

section Judged

variable {report : Report} {verdict : Verdict} {order : Option CommentOrder}

theorem print_eq_ok (h : output.refusal? (printed o verdict report) = none) :
    (Judgement.judged report verdict order).print o output = .ok () := by
  dsimp only [Judgement.print, Judgement.output]
  rw [h]

/-- A judgement whose report is printed goes on to the exchange. -/
theorem run_of_judged (h : Judges o s (.ok (.judged report verdict order)))
    (hprinted : output.refusal? (printed o verdict report) = none) (responses : List Discussion.Response) :
    ∃ notes, run o s responses output = (Judgement.judged report verdict order).finish o notes
      ((order.map fun order => (errandOf order verdict report).run responses).getD {}) := by
  obtain ⟨notes, hrun⟩ := run_of_judges h responses output
  dsimp only at hrun
  rw [print_eq_ok hprinted] at hrun
  refine ⟨notes, hrun.trans ?_⟩
  cases order <;> rfl

/-- When a judgement is complete the report is printed, and then the server is asked, if it is to be. -/
theorem effects_of_judged (h : Judges o s (.ok (.judged report verdict order)))
    (hprinted : output.refusal? (printed o verdict report) = none) (responses : List Discussion.Response) :
    ∃ requests, (run o s responses output).effects = .printed (printed o verdict report) :: requests.map .asked ∧
      (order = none → requests = []) := by
  obtain ⟨notes, hrun⟩ := run_of_judged h hprinted responses
  rw [hrun]
  cases order with
  | none => exact ⟨[], rfl, fun _ => rfl⟩
  | some order =>
    dsimp only [Option.map_some, Option.getD_some, Judgement.finish]
    cases ((errandOf order verdict report).run responses).outcome with
    | ok v => exact ⟨_, rfl, by simp⟩
    | error f => exact ⟨_, rfl, by simp⟩

/-- The report of a run that does not fail is one that the output takes. -/
theorem printed_of_not_raises (h : Judges o s (.ok (.judged report verdict order)))
    (hraises : ∀ f, ¬ Raises o s responses output f) : output.refusal? (printed o verdict report) = none := by
  cases hrefusal : output.refusal? (printed o verdict report) with
  | none => rfl
  | some message => exact absurd (.printing h hrefusal) (hraises _)

/-- The exit code is that of the verdict unless the report cannot be printed or the exchange fails. -/
theorem exit_of_judged (h : Judges o s (.ok (.judged report verdict order)))
    (hraises : ∀ f, ¬ Raises o s responses output f) : (run o s responses output).exit = verdict.exitCode := by
  have hprinted := printed_of_not_raises h hraises
  obtain ⟨notes, hrun⟩ := run_of_judged h hprinted responses
  rw [hrun]
  cases order with
  | none => rfl
  | some order =>
    dsimp only [Option.map_some, Option.getD_some, Judgement.finish]
    cases hexchange : ((errandOf order verdict report).run responses).outcome with
    | ok v => rfl
    | error f => exact absurd (.discussing h hprinted hexchange) (hraises _)

end Judged

/-- A run that fails ends with two and tells of the failure; unless it is one of the exchange, the run
    has done nothing. -/
theorem Raises.ends {f : Failure} (h : Raises o s responses output f) :
    (run o s responses output).exit = failureExit ∧
      (∃ lines, (run o s responses output).log = lines ++ [failureLine f]) ∧
      ((∃ d, f = .discussion d) ∨ (run o s responses output).effects = []) := by
  cases h with
  | judging h =>
    obtain ⟨notes, hrun⟩ := run_of_judges h responses output
    rw [hrun]
    exact ⟨rfl, ⟨_, rfl⟩, .inr rfl⟩
  | printing hjudges h =>
    obtain ⟨notes, hrun⟩ := run_of_judges hjudges responses output
    dsimp only [Judgement.print, Judgement.output] at hrun
    rw [h] at hrun
    rw [hrun]
    exact ⟨rfl, ⟨_, rfl⟩, .inr rfl⟩
  | discussing hjudges hprinted hexchange =>
    obtain ⟨notes, hrun⟩ := run_of_judged hjudges hprinted responses
    dsimp only [Option.map_some, Option.getD_some, Judgement.finish] at hrun
    rw [hexchange] at hrun
    rw [hrun]
    exact ⟨rfl, ⟨_, rfl⟩, .inl ⟨_, rfl⟩⟩

theorem Skips.judges (h : Skips o s) : Judges o s (.ok .skipped) := by
  obtain ⟨root, event, hentered, hcomment, hcredential, hnot⟩ := h
  exact .skipped hentered hcomment hcredential hnot

theorem Skips.ends (h : Skips o s) (responses : List Discussion.Response) (output : Output) :
    (judge o s).1 = .ok .skipped ∧ (run o s responses output).exit = 0 ∧ (run o s responses output).effects = [] := by
  obtain ⟨notes, hrun⟩ := run_of_judges h.judges responses output
  rw [hrun]
  exact ⟨(judges_iff o s _).mp h.judges, rfl, rfl⟩

theorem exitCode_eq_one_iff (v : Verdict) : v.exitCode = 1 ↔ v.failing = true := by
  cases hfailing : v.failing <;> simp [Verdict.exitCode, hfailing]

theorem exitCode_eq_zero_iff (v : Verdict) : v.exitCode = 0 ↔ v.failing = false := by
  cases hfailing : v.failing <;> simp [Verdict.exitCode, hfailing]

theorem isData_reportOf {root : Path} {event : Option Event} {e : Evaluation}
    (h : Evaluates o s root event (.ok e)) : (reportOf o s root e).IsData := by
  cases h with
  | evaluated hpolicy hlockfile hevaluate hsearch =>
    exact Report.isData_ofVerdict hevaluate _ _ _ (.object List.nodup_nil (by simp))

theorem raises_or_skips_or_evaluated (o : Options) (s : Surroundings) (responses : List Discussion.Response)
    (output : Output) :
    (∃ f, Raises o s responses output f) ∨ Skips o s ∨ ∃ root e, Evaluated o s root e := by
  obtain ⟨r, h⟩ := exists_judges o s
  cases r with
  | error f => exact .inl ⟨f, .judging h⟩
  | ok judgement =>
    right
    cases h with
    | skipped hentered hcomment hcredential hnot =>
      exact .inl ⟨_, _, hentered, hcomment, hcredential, hnot⟩
    | judged hentered horder hevaluates => exact .inr ⟨_, _, horder.evaluated hentered hevaluates⟩

/-- A request is made only when all that comes before it has succeeded, printing included. -/
theorem asks_after_printing (h : (run o s responses output).requests ≠ []) :
    o.comment = true ∧ HasCredential s ∧ ∃ root event e text, Entered o s root event ∧ OnPull event ∧
      Evaluates o s root event (.ok e) ∧ Rendered o (reportOf o s root e) text ∧ output.refusal? text = none ∧
      (run o s responses output).effects = .printed text :: (run o s responses output).requests.map .asked := by
  -- along the order of a run: wherever it ends before the server is asked, there are no requests
  obtain ⟨r, hjudges⟩ := exists_judges o s
  cases r with
  | error f =>
    obtain ⟨notes, hrun⟩ := run_of_judges hjudges responses output
    rw [hrun] at h
    exact absurd rfl h
  | ok judgement =>
    cases hjudges with
    | skipped hentered hcomment hcredential hnot =>
      have hends := Skips.ends ⟨_, _, hentered, hcomment, hcredential, hnot⟩ responses output
      rw [Outcome.requests, hends.2.2] at h
      exact absurd rfl h
    | judged hentered horder hevaluates =>
      rename_i root event order e
      have hjudged : Judges o s _ := .judged hentered horder hevaluates
      cases hprinted : output.refusal? (printed o e.verdict (reportOf o s root e)) with
      | some message =>
        have hraises : Raises o s responses output _ := .printing hjudged hprinted
        rcases hraises.ends.2.2 with ⟨d, hd⟩ | hnothing
        · cases hd
        · rw [Outcome.requests, hnothing] at h
          exact absurd rfl h
      | none =>
        obtain ⟨requests, heffects, hnone⟩ := effects_of_judged hjudged hprinted responses
        have hrequests := requests_of_effects heffects
        cases order with
        | none =>
          rw [hrequests, hnone rfl] at h
          exact absurd rfl h
        | some order =>
          obtain ⟨hcomment, hcredential, hpull⟩ := horder.permitted
          refine ⟨hcomment, hcredential, root, event, e, _, hentered, hpull, hevaluates,
            rendered_printed o s root e, hprinted, ?_⟩
          rw [hrequests]
          exact heffects

theorem Evaluated.ends {root : Path} {e : Evaluation} (h : Evaluated o s root e)
    (hraises : ∀ f, ¬ Raises o s responses output f) :
    (run o s responses output).exit = e.verdict.exitCode ∧
      Rendered o (reportOf o s root e) (run o s responses output).output := by
  obtain ⟨order, hjudges⟩ := h.judges
  obtain ⟨requests, heffects, -⟩ := effects_of_judged hjudges (printed_of_not_raises hjudges hraises) responses
  rw [output_of_effects heffects]
  exact ⟨exit_of_judged hjudges hraises, rendered_printed o s root e⟩

/-- The member `failing` of a document that is printed is true exactly if the exit code is one. -/
theorem Evaluated.reads_failing {root : Path} {e : Evaluation} (h : Evaluated o s root e)
    (hraises : ∀ f, ¬ Raises o s responses output f) (hformat : o.format = .json) :
    ∃ v, Json.read (run o s responses output).output.toList = .ok v ∧
      v.get? "failing" = some (.bool (decide ((run o s responses output).exit = 1))) := by
  obtain ⟨hexit, hrendered⟩ := h.ends hraises
  obtain ⟨event, -, -, hevaluates⟩ := h
  rw [Rendered, hformat] at hrendered
  refine ⟨(reportOf o s root e).toJson.sorted, ?_, ?_⟩
  · rw [hrendered]
    exact (isData_reportOf hevaluates).read_toDocument none
  · rw [Report.get?_failing_sorted, hexit]
    congr 2
    rw [Bool.eq_iff_iff, decide_eq_true_iff, exitCode_eq_one_iff]
    rfl

theorem exit_of_not_raises (hraises : ∀ f, ¬ Raises o s responses output f) :
    (run o s responses output).exit = 0 ∨ (run o s responses output).exit = 1 := by
  rcases raises_or_skips_or_evaluated o s responses output with ⟨f, hf⟩ | hskips | ⟨root, e, h⟩
  · exact absurd hf (hraises f)
  · exact .inl (hskips.ends responses output).2.1
  · rw [(h.ends hraises).1, exitCode_eq_zero_iff, exitCode_eq_one_iff]
    cases e.verdict.failing with
    | true => exact .inr rfl
    | false => exact .inl rfl

theorem exit_eq_two_iff (o : Options) (s : Surroundings) (responses : List Discussion.Response)
    (output : Output) :
    (run o s responses output).exit = 2 ↔ ∃ f, Raises o s responses output f := by
  constructor
  · intro htwo
    by_contra hnone
    have hless : (run o s responses output).exit = 0 ∨ (run o s responses output).exit = 1 :=
      exit_of_not_raises fun f hf => hnone ⟨f, hf⟩
    omega
  · rintro ⟨f, hf⟩
    exact hf.ends.1

/-- **Exit codes and effects are coherent,** for all options, surroundings and responses, and whatever the
    output takes or refuses.

    1. The exit code is zero, one or two, and two exactly if the run fails.
    2. A run that fails ends its log with the failure, and has done nothing unless it is the exchange
       that fails: nothing is printed, and no request is made.
    3. A run that fails, is skipped, or comes to an evaluation: there is no other.
    4. A run that is skipped has no report, ends with zero and has done nothing.
    5. A run that comes to an evaluation and does not fail ends with one if the verdict is failing and
       with zero if it is not, and prints the report; the member `failing` of a document agrees.
    6. A request is made only if a comment is asked for, the credential is there, the event is one of a
       pull request, the evaluation has succeeded and the output has taken the report; that is printed
       before any request. -/
theorem run_coherent (o : Options) (s : Surroundings) (responses : List Discussion.Response)
    (output : Output) :
    (((run o s responses output).exit = 0 ∨ (run o s responses output).exit = 1 ∨ (run o s responses output).exit = 2) ∧
      ((run o s responses output).exit = 2 ↔ ∃ f, Raises o s responses output f)) ∧
    (∀ f, Raises o s responses output f → (∃ lines, (run o s responses output).log = lines ++ [failureLine f]) ∧
      ((∃ d, f = .discussion d) ∨ (run o s responses output).effects = [])) ∧
    ((∃ f, Raises o s responses output f) ∨ Skips o s ∨ ∃ root e, Evaluated o s root e) ∧
    (Skips o s → (judge o s).1 = .ok .skipped ∧ (run o s responses output).exit = 0 ∧
      (run o s responses output).effects = []) ∧
    (∀ root e, Evaluated o s root e → (∀ f, ¬ Raises o s responses output f) →
      ((run o s responses output).exit = 1 ↔ e.verdict.failing = true) ∧
      ((run o s responses output).exit = 0 ↔ e.verdict.failing = false) ∧
      Rendered o (reportOf o s root e) (run o s responses output).output ∧
      (o.format = .json → ∃ v, Json.read (run o s responses output).output.toList = .ok v ∧
        v.get? "failing" = some (.bool (decide ((run o s responses output).exit = 1))))) ∧
    ((run o s responses output).requests ≠ [] → o.comment = true ∧ HasCredential s ∧ ∃ root event e text,
      Entered o s root event ∧ OnPull event ∧ Evaluates o s root event (.ok e) ∧
      Rendered o (reportOf o s root e) text ∧ output.refusal? text = none ∧
      (run o s responses output).effects = .printed text :: (run o s responses output).requests.map .asked) := by
  have hexit : (run o s responses output).exit = 0 ∨ (run o s responses output).exit = 1 ∨
      (run o s responses output).exit = 2 := by
    by_cases hraises : ∃ f, Raises o s responses output f
    · exact .inr (.inr ((exit_eq_two_iff o s responses output).mpr hraises))
    · have hless : (run o s responses output).exit = 0 ∨ (run o s responses output).exit = 1 :=
        exit_of_not_raises fun f hf => hraises ⟨f, hf⟩
      omega
  refine ⟨⟨hexit, exit_eq_two_iff o s responses output⟩, fun f h => h.ends.2,
    raises_or_skips_or_evaluated o s responses output, fun h => h.ends responses output, ?_, asks_after_printing⟩
  intro root e h hraises
  obtain ⟨hverdict, hrendered⟩ := h.ends hraises
  refine ⟨?_, ?_, hrendered, h.reads_failing hraises⟩
  · rw [hverdict, exitCode_eq_one_iff]
  · rw [hverdict, exitCode_eq_zero_iff]

/-- A run that is to write a comment on a pull request. -/
def commenting : Options where
  path := "/"
  comment := true

/-- The surroundings of such a run, with a policy file. -/
def pullSurroundings (policy : Entry) : Surroundings where
  here := ⟨.root, []⟩
  files := ⟨[([".repo-policy.yml".toList], policy),
    (["event.json".toList],
      .file (Text.encodeUtf8 "\x7b\"pull_request\": \x7b\"number\": 7\x7d\x7d".toList))]⟩
  settings := [(tokenVariable, "t0ken"), (Event.pathVariable, "/event.json"), (Event.repositoryVariable, "o/r")]

/-- A policy file that cannot be read ends a run before it does anything. -/
example : ((run commenting (pullSurroundings (.sealed .denied)) []).log,
    (run commenting (pullSurroundings (.sealed .denied)) []).effects.length) =
      (["policygate: error: [Errno 13] Permission denied: '/.repo-policy.yml'"], 0) := by
  decide +kernel

/-- So does an output that refuses the report. -/
example : ((run commenting (pullSurroundings (.file [])) [] ⟨fun _ => some "Broken pipe"⟩).log,
    (run commenting (pullSurroundings (.file [])) [] ⟨fun _ => some "Broken pipe"⟩).effects.length) =
      (["policygate: error: Broken pipe"], 0) := by
  decide +kernel

end MergeGate.Check
