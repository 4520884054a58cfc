import CiHarness.Proofs.Run.Single
import CiHarness.Run.Sequence

/-!
# What a run comes to

Jobs run one after another, and the only thing that a job hands to the next one is the launcher's
state. So the report of a run is known job by job: each report follows from its job and from what
the launcher replies in the state that the jobs before have left. The main statement is
`runAll_report`.
-/
namespace CiHarness

variable {σ : Type}

namespace Status

/-- Only a job that ran well has passed. -/
theorem ofResult_eq_passed_iff (result : Except Failure Outcome) :
    ofResult result = .passed ↔ ∃ outcome, result = .ok outcome := by
  cases result with
  | ok outcome => simp [ofResult]
  | error failure => cases failure <;> simp [ofResult]

/-- Only a failure by content has that status. -/
theorem ofResult_eq_contentFailed_iff (result : Except Failure Outcome) :
    ofResult result = .contentFailed ↔ ∃ step output,
      result = .error (.contentFailed step output) := by
  cases result with
  | ok outcome => simp [ofResult]
  | error failure => cases failure <;> simp [ofResult]

end Status

namespace Job

/-- The status that a job comes to by what its launcher answers, the first cause of a failure first:
nothing to launch, not started, another exit code than zero, and the marker in the text of a
simulation. -/
def due (job : Job) (answer : Except StartError Output) : Status :=
  if job.command.tokens = [] then .startFailed ("step '" ++ job.name ++ "' has empty command")
  else
    match answer with
    | .error e => .startFailed ("step '" ++ job.name ++ "' could not be started: " ++ e.message)
    | .ok output =>
      if output.exitCode ≠ 0 then .processFailed output.exitCode
      else if job.step.IsSimulation ∧ Verdict.marker.toList <:+: (output.stdout.getD "").toList then
        .contentFailed
      else .passed

theorem isEmpty_command_iff (job : Job) : job.command.isEmpty = true ↔ job.command.tokens = [] := by
  simp [Command.isEmpty]

/-- The status of a job's result is the one that is due. -/
theorem ofResult_result (l : Launcher σ) (s : σ) (job : Job) :
    Status.ofResult (job.result (l.reply? s job)) = job.due (l.launch job.call s).1.result := by
  by_cases hempty : job.command.tokens = []
  · have hnone : l.reply? s job = none := if_pos (job.isEmpty_command_iff.mpr hempty)
    rw [hnone, due.eq_def, if_pos hempty]
    rfl
  · have hsome : l.reply? s job = some (l.launch job.call s).1.result :=
      if_neg fun h => hempty (job.isEmpty_command_iff.mp h)
    rw [hsome, due.eq_def, if_neg hempty]
    cases (l.launch job.call s).1.result with
    | error e => rfl
    | ok output =>
      by_cases hexit : output.exitCode = 0 <;> by_cases hsim : job.step.IsSimulation <;>
        by_cases hmarker : Verdict.marker.toList <:+: (output.stdout.getD "").toList <;>
        simp [result, judgedText, Status.ofResult, hexit, hsim, hmarker]

end Job

namespace Launcher

/-- The state in which a job of a run is reached: the one that all jobs before it leave. -/
def stateBefore (l : Launcher σ) (jobs : List Job) (s : σ) (i : Nat) : σ :=
  (jobs.take i).foldl l.after s

@[simp] theorem state_reportJob (l : Launcher σ) (job : Job) (s : σ) :
    (l.reportJob job s).state = l.after s job := by simp [reportJob]

theorem value_reportJob (l : Launcher σ) (job : Job) (s : σ) :
    (l.reportJob job s).value =
      ⟨job.name, job.command, job.due (l.launch job.call s).1.result,
        l.elapsed s (l.after s job)⟩ := by
  simp [reportJob, Job.ofResult_result]

@[simp] theorem state_reportJobs (l : Launcher σ) (jobs : List Job) (s : σ) :
    (l.reportJobs jobs s).state = jobs.foldl l.after s := by
  induction jobs generalizing s with
  | nil => rfl
  | cons job rest ih => simp [reportJobs, ih]

@[simp] theorem length_reportJobs (l : Launcher σ) (jobs : List Job) (s : σ) :
    (l.reportJobs jobs s).value.length = jobs.length := by
  induction jobs generalizing s with
  | nil => rfl
  | cons job rest ih => simp [reportJobs, ih]

/-- What each report shows by its job alone, the reports of a run show job by job. -/
theorem map_reportJobs {α : Type} {l : Launcher σ} {view : StepReport → α} {due : Job → α}
    (h : ∀ job s, view (l.reportJob job s).value = due job) (jobs : List Job) (s : σ) :
    (l.reportJobs jobs s).value.map view = jobs.map due := by
  induction jobs generalizing s with
  | nil => rfl
  | cons job rest ih => rw [reportJobs, List.map_cons, List.map_cons, ih, h]

/-- The reports of a run, place by place. -/
theorem getElem?_reportJobs (l : Launcher σ) (jobs : List Job) (s : σ) (i : Nat) :
    (l.reportJobs jobs s).value[i]? =
      jobs[i]?.map fun job => (l.reportJob job (l.stateBefore jobs s i)).value := by
  -- The first job moves the state on, and the rest is a run of its own from there.
  induction jobs generalizing s i with
  | nil => rfl
  | cons job rest ih =>
    cases i with
    | zero => simp [reportJobs, stateBefore]
    | succ i => simp [reportJobs, ih, stateBefore]

end Launcher

namespace StepReport

theorem passed_iff (r : StepReport) : r.passed = true ↔ r.status = .passed := by simp [passed]

end StepReport

namespace RunReport

theorem failedCount_eq_zero_iff (r : RunReport) :
    r.failedCount = 0 ↔ ∀ step ∈ r.steps, step.status = .passed := by
  simp [failedCount, List.countP_eq_zero, StepReport.passed_iff]

theorem passedCount_add_failedCount (r : RunReport) :
    r.passedCount + r.failedCount = r.steps.length := by
  rw [List.length_eq_countP_add_countP StepReport.passed]
  simp [passedCount, failedCount]

end RunReport

namespace Launcher

theorem state_runAll (l : Launcher σ) (stamp : Stamp) (jobs : List Job) (s : σ) :
    (l.runAll stamp jobs s).state = jobs.foldl l.after s := by simp [runAll]

theorem success_runAll_iff (l : Launcher σ) (stamp : Stamp) (jobs : List Job) (s : σ) :
    (l.runAll stamp jobs s).value.success = true ↔
      ∀ r ∈ (l.runAll stamp jobs s).value.steps, r.status = .passed := by
  simp [runAll, StepReport.passed_iff]

/-- **What a run reports.** For every launcher, however its replies depend on what it was asked
before, there is one report for each job, in the order of the jobs, with the name and the command of
the job and the status that is due by the launcher's answer in the state left by the jobs before.
The run succeeds exactly if every step passed, exactly if no step is counted as failed, and every
step is counted once. -/
theorem runAll_report (l : Launcher σ) (stamp : Stamp) (jobs : List Job) (s : σ) :
    (l.runAll stamp jobs s).value.steps.length = jobs.length ∧
    (∀ i (hi : i < jobs.length), ∃ r, (l.runAll stamp jobs s).value.steps[i]? = some r ∧
      r.name = jobs[i].name ∧ r.command = jobs[i].command ∧
      r.status = jobs[i].due (l.launch jobs[i].call (l.stateBefore jobs s i)).1.result) ∧
    ((l.runAll stamp jobs s).value.success = true ↔
      ∀ r ∈ (l.runAll stamp jobs s).value.steps, r.status = .passed) ∧
    ((l.runAll stamp jobs s).value.success = true ↔ (l.runAll stamp jobs s).value.failedCount = 0) ∧
    (l.runAll stamp jobs s).value.passedCount + (l.runAll stamp jobs s).value.failedCount =
      jobs.length := by
  have hsteps : (l.runAll stamp jobs s).value.steps = (l.reportJobs jobs s).value := rfl
  have hlength : (l.runAll stamp jobs s).value.steps.length = jobs.length := by
    rw [hsteps, length_reportJobs]
  refine ⟨hlength, ?reports, success_runAll_iff l stamp jobs s, ?failed, ?counts⟩
  case reports =>
    intro i hi
    rw [hsteps, getElem?_reportJobs, List.getElem?_eq_getElem hi, Option.map_some, value_reportJob]
    exact ⟨_, rfl, rfl, rfl, rfl⟩
  case failed => rw [success_runAll_iff, RunReport.failedCount_eq_zero_iff]
  case counts => rw [RunReport.passedCount_add_failedCount, hlength]

end Launcher

end CiHarness
