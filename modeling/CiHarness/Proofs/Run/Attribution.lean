import CiHarness.Proofs.Run.Sequence
import CiHarness.Proofs.Step.Setup

/-!
# What has passed and whose failure it is

A job that ends well has passed by every measure there is: its program exited with zero, and its
verdict, if it has one, is a pass. A job that fails does so by a failure of its own that carries its
name. So a run meets no failure of the environment, and every one of its reports says of the result
of its job whether it was good. The main statement is `runJob_accounted`.
-/
namespace CiHarness

variable {σ : Type}

namespace Job

/-- A good result has passed, with a verdict exactly on a simulation, and says what the launcher has
kept. -/
theorem passed_of_result {job : Job} {reply : Option (Except StartError Output)} {outcome : Outcome}
    (h : job.result reply = .ok outcome) :
    outcome.passed = true ∧ outcome.exitCode = 0 ∧ outcome.step = job.name ∧
      reply = some (.ok ⟨0, outcome.stdout⟩) ∧
      outcome.verdict = if job.step.IsSimulation then some .pass else none := by
  cases result_eq_iff.mp h with
  | unjudged output hexit hsim => exact ⟨rfl, rfl, rfl, by rw [← hexit], (if_neg hsim).symm⟩
  | judged output hexit hsim => exact ⟨rfl, rfl, rfl, by rw [← hexit], (if_pos hsim).symm⟩

/-- Every failure of a job carries its name. -/
theorem step?_of_result {job : Job} {reply : Option (Except StartError Output)} {failure : Failure}
    (h : job.result reply = .error failure) : failure.step? = some job.name := by
  cases result_eq_iff.mp h <;> rfl

end Job

namespace Status

/-- A failure of a step has a status of its own. -/
theorem ofResult_ne_errored {failure : Failure} (h : failure.isStepFailure = true) (text : String) :
    ofResult (.error failure) ≠ .errored text := by
  cases failure <;> simp [Failure.isStepFailure, Failure.step?, ofResult] at h ⊢

end Status

namespace Launcher

theorem reply?_eq_some_iff {l : Launcher σ} {job : Job} {s : σ}
    {answer : Except StartError Output} :
    l.reply? s job = some answer ↔ job.command.isEmpty = false ∧
      (l.launch job.call s).1.result = answer := by
  cases h : job.command.isEmpty <;> simp [reply?, h]

/-- **Whatever a job comes to is accounted for.** An outcome has passed: the program exited with
zero, the text is what the launcher has kept, and there is a verdict, a pass, exactly on a
simulation; the outcome bears the name of the job. A failure belongs to a step, and to this one by
its name. So no report of a run has the status that is left for other failures, and a report says
that its step passed exactly if the job, run in the state that the jobs before it have left, comes
to an outcome. -/
theorem runJob_accounted (l : Launcher σ) (s : σ) :
    (∀ (job : Job) (outcome : Outcome), (l.runJob job s).value = .ok outcome →
      outcome.passed = true ∧ outcome.exitCode = 0 ∧ outcome.step = job.name ∧
      (l.launch job.call s).1.result = .ok ⟨0, outcome.stdout⟩ ∧
      outcome.verdict = if job.step.IsSimulation then some .pass else none) ∧
    (∀ (job : Job) (failure : Failure), (l.runJob job s).value = .error failure →
      failure.isStepFailure = true ∧ failure.step? = some job.name) ∧
    ∀ (stamp : Stamp) (jobs : List Job) (i : Nat) (r : StepReport),
      (l.runAll stamp jobs s).value.steps[i]? = some r →
      (∀ text, r.status ≠ .errored text) ∧
      ∃ job, jobs[i]? = some job ∧ r.name = job.name ∧
        (r.status = .passed ↔ ∃ outcome,
          (l.runJob job (l.stateBefore jobs s i)).value = .ok outcome) := by
  have hfailure : ∀ (job : Job) (s : σ) (failure : Failure),
      (l.runJob job s).value = .error failure →
      failure.isStepFailure = true ∧ failure.step? = some job.name := by
    intro job s failure h
    rw [value_runJob] at h
    have hstep := Job.step?_of_result h
    exact ⟨by rw [Failure.isStepFailure, hstep, Option.isSome_some], hstep⟩
  refine ⟨?outcome, fun job => hfailure job s, ?reports⟩
  case outcome =>
    intro job outcome h
    rw [value_runJob] at h
    obtain ⟨hpassed, hexit, hname, hreply, hverdict⟩ := Job.passed_of_result h
    exact ⟨hpassed, hexit, hname, (reply?_eq_some_iff.mp hreply).2, hverdict⟩
  case reports =>
    intro stamp jobs i r hr
    have hsteps : (l.runAll stamp jobs s).value.steps = (l.reportJobs jobs s).value := rfl
    rw [hsteps, getElem?_reportJobs] at hr
    obtain ⟨job, hjob, rfl⟩ := Option.map_eq_some_iff.mp hr
    have hstatus : (l.reportJob job (l.stateBefore jobs s i)).value.status =
        Status.ofResult (l.runJob job (l.stateBefore jobs s i)).value := rfl
    refine ⟨?errored, job, hjob, rfl, ?passed⟩
    case errored =>
      intro text
      rw [hstatus]
      cases hvalue : (l.runJob job (l.stateBefore jobs s i)).value with
      | ok outcome => simp [Status.ofResult]
      | error failure => exact Status.ofResult_ne_errored (hfailure job _ failure hvalue).1 text
    case passed => rw [hstatus, Status.ofResult_eq_passed_iff]

/-- The marker makes a simulation fail under its name, and is nothing to the job before it. -/
theorem runJob_accounted_of_marker :
    let l : Launcher Unit := ⟨fun _ s => (⟨.ok ⟨0, some "~~FAIL~~"⟩, [], []⟩, s), fun _ => 0⟩
    (∃ outcome, (l.runJob (Job.ofStep (Setup.sample false) .fmt) ()).value = .ok outcome ∧
      outcome.passed = true) ∧
      ∃ failure, (l.runJob (Job.ofStep (Setup.sample false) (.simulate .fsm)) ()).value =
        .error failure ∧
        failure.step? = some (Step.simulate .fsm).name := by
  intro l
  obtain ⟨houtcome, hfailure, -⟩ := runJob_accounted l ()
  have hpassed : (l.runJob (Job.ofStep (Setup.sample false) .fmt) ()).value =
      .ok ⟨"fmt", 0, some "~~FAIL~~", none⟩ := by decide
  have hfailed : (l.runJob (Job.ofStep (Setup.sample false) (.simulate .fsm)) ()).value =
      .error (.contentFailed "sim:fsm" "~~FAIL~~") := by decide
  exact ⟨⟨_, hpassed, (houtcome _ _ hpassed).1⟩, ⟨_, hfailed, (hfailure _ _ hfailed).2⟩⟩

end Launcher

end CiHarness
