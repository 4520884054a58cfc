import CiHarness.Proofs.Run.Sequence
import Mathlib.Data.List.Forall2

/-!
# Runs in parts

A run can be cut anywhere: the second part goes on in the state that the first one has left, and
both together show, leave and report what the whole does. Cut into single jobs, a run is its jobs
run one by one, each result turned into the status that belongs to it. The main statement is
`runAll_sequential`.
-/
namespace CiHarness

variable {σ : Type}

/-- The status that belongs to a result. No other failure is met while a job runs. -/
inductive Status.Records : Except Failure Outcome → Status → Prop
  | passed (outcome : Outcome) : Records (.ok outcome) .passed
  | processFailed (step : String) (exitCode : Int32) :
      Records (.error (.processFailed step exitCode)) (.processFailed exitCode)
  | contentFailed (step output : String) :
      Records (.error (.contentFailed step output)) .contentFailed
  | notStarted (step : String) (error : StartError) :
      Records (.error (.notStarted step error))
        (.startFailed ("step '" ++ step ++ "' could not be started: " ++ error.message))
  | emptyCommand (step : String) :
      Records (.error (.emptyCommand step))
        (.startFailed ("step '" ++ step ++ "' has empty command"))

/-- A job never comes to a failure that is not its own. -/
theorem Job.records_result (job : Job) (reply : Option (Except StartError Output)) :
    Status.Records (job.result reply) (Status.ofResult (job.result reply)) := by
  generalize hresult : job.result reply = r
  cases result_eq_iff.mp hresult with
  | empty => exact .emptyCommand job.name
  | notStarted e => exact .notStarted job.name e
  | processFailed output => exact .processFailed job.name output.exitCode
  | contentFailed output => exact .contentFailed job.name (judgedText output)
  | unjudged | judged => exact .passed _

namespace Launcher

/-- Jobs run one by one on the same launcher, whatever each comes to. -/
def runEach (l : Launcher σ) : List Job → σ → Ran σ (List (Except Failure Outcome))
  | [], s => ⟨[], [], s⟩
  | job :: rest, s =>
    let first := l.runJob job s
    let others := l.runEach rest first.state
    ⟨first.value :: others.value, first.trace ++ others.trace, others.state⟩

/-- The reports of two rows of jobs are those of the first, and then those of the second from where
it ended. -/
theorem reportJobs_append (l : Launcher σ) (xs ys : List Job) (s : σ) :
    l.reportJobs (xs ++ ys) s =
      let first := l.reportJobs xs s
      let second := l.reportJobs ys first.state
      ⟨first.value ++ second.value, first.trace ++ second.trace, second.state⟩ := by
  induction xs generalizing s with
  | nil => rfl
  | cons job rest ih => simp [reportJobs, ih]

@[simp] theorem state_runEach (l : Launcher σ) (jobs : List Job) (s : σ) :
    (l.runEach jobs s).state = jobs.foldl l.after s := by
  induction jobs generalizing s with
  | nil => rfl
  | cons job rest ih => simp [runEach, ih]

/-- Reporting on jobs adds to what they show only entries of the log. -/
theorem unlogged_reportJobs_eq_runEach (l : Launcher σ) (jobs : List Job) (s : σ) :
    (l.reportJobs jobs s).trace.unlogged = (l.runEach jobs s).trace.unlogged := by
  induction jobs generalizing s with
  | nil => rfl
  | cons job rest ih => simp [reportJobs, reportJob, runEach, ih]

/-- Each status belongs to the result of the job in its place. -/
theorem forall₂_records (l : Launcher σ) (jobs : List Job) (s : σ) :
    List.Forall₂ Status.Records (l.runEach jobs s).value
      ((l.reportJobs jobs s).value.map (·.status)) := by
  induction jobs generalizing s with
  | nil => exact .nil
  | cons job rest ih =>
    have hfirst : Status.Records (l.runJob job s).value (l.reportJob job s).value.status := by
      rw [reportJob, value_runJob]
      exact job.records_result _
    refine .cons hfirst ?_
    rw [state_reportJob, ← state_runJob]
    exact ih _

/-- But for the log, a run shows what the reports on its jobs show. -/
theorem unlogged_runAll_eq (l : Launcher σ) (stamp : Stamp) (jobs : List Job) (s : σ) :
    (l.runAll stamp jobs s).trace.unlogged = (l.reportJobs jobs s).trace.unlogged := by
  simp [runAll]

/-- **A run is the sequence of its jobs.** Wherever its jobs are cut in two, the whole run makes the
calls, prints the texts, leaves the state and gives the reports of the first part and then of the
second one, which goes on in the state that the first has left; it succeeds if both do. And it makes
the calls, prints the texts and leaves the state of its jobs run one by one, whose results its
statuses record. All that both show is the same in the same order, but for the log. -/
theorem runAll_sequential (l : Launcher σ) (s : σ) :
    (∀ (stamp stamp₁ stamp₂ : Stamp) (xs ys : List Job),
      let whole := l.runAll stamp (xs ++ ys) s
      let first := l.runAll stamp₁ xs s
      let second := l.runAll stamp₂ ys first.state
      whole.trace.calls = first.trace.calls ++ second.trace.calls ∧
      whole.trace.printed = first.trace.printed ++ second.trace.printed ∧
      whole.trace.unlogged = first.trace.unlogged ++ second.trace.unlogged ∧
      whole.state = second.state ∧
      whole.value.steps = first.value.steps ++ second.value.steps ∧
      whole.value.success = (first.value.success && second.value.success)) ∧
    ∀ (stamp : Stamp) (jobs : List Job),
      let whole := l.runAll stamp jobs s
      let each := l.runEach jobs s
      whole.trace.calls = each.trace.calls ∧
      whole.trace.printed = each.trace.printed ∧
      whole.trace.unlogged = each.trace.unlogged ∧
      whole.state = each.state ∧
      List.Forall₂ Status.Records each.value (whole.value.steps.map (·.status)) := by
  refine ⟨?parts, ?each⟩
  case parts =>
    intro stamp stamp₁ stamp₂ xs ys whole first second
    have happend : l.reportJobs (xs ++ ys) s = _ := l.reportJobs_append xs ys s
    have hunlogged : whole.trace.unlogged = (first.trace ++ second.trace).unlogged := by
      rw [Trace.unlogged_append, unlogged_runAll_eq, unlogged_runAll_eq, unlogged_runAll_eq,
        happend]
      exact Trace.unlogged_append _ _
    refine ⟨?_, ?_, hunlogged.trans (Trace.unlogged_append _ _), ?_, ?_, ?_⟩
    · rw [Trace.calls_congr hunlogged, Trace.calls_append]
    · rw [Trace.printed_congr hunlogged, Trace.printed_append]
    · simp only [whole, first, second, runAll, happend]
    · simp only [whole, first, second, runAll, happend]
    · simp only [whole, first, second, runAll, happend, List.all_append]
  case each =>
    intro stamp jobs whole each
    have hunlogged : whole.trace.unlogged = each.trace.unlogged := by
      rw [unlogged_runAll_eq, unlogged_reportJobs_eq_runEach]
    refine ⟨Trace.calls_congr hunlogged, Trace.printed_congr hunlogged, hunlogged, ?_,
      l.forall₂_records jobs s⟩
    rw [state_runAll, state_runEach]

end Launcher

end CiHarness
