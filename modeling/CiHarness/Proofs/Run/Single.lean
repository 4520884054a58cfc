import CiHarness.Proofs.Run.Trace
import CiHarness.Proofs.Run.Verdict
import CiHarness.Run.Single

/-!
# What one job comes to

A job asks its launcher at most once, and all that it comes to follows from the one reply: its
result, the state that it leaves and the calls in its trace. The three lemmas of this module say so
for every launcher; statements about runs build on them and do not look into the code again.
-/
namespace CiHarness

variable {σ : Type}

namespace Step

/-- A simulation of some scenario. -/
def IsSimulation (step : Step) : Prop := ∃ s, step = .simulate s

theorem isJudgedByOutput_iff (step : Step) : step.isJudgedByOutput = true ↔ step.IsSimulation := by
  cases step <;> simp [isJudgedByOutput, IsSimulation]

instance (step : Step) : Decidable step.IsSimulation :=
  decidable_of_iff _ step.isJudgedByOutput_iff

end Step

namespace Launcher

/-- What a launcher replies to a job; none if the job has nothing to launch. -/
def reply? (l : Launcher σ) (s : σ) (job : Job) : Option (Except StartError Output) :=
  if job.command.isEmpty then none else some (l.launch job.call s).1.result

/-- The state that a job leaves behind. -/
def after (l : Launcher σ) (s : σ) (job : Job) : σ :=
  if job.command.isEmpty then s else (l.launch job.call s).2

end Launcher

namespace Job

/-- The calls that a job makes: one, or none without a token. -/
def calls (job : Job) : List Call := if job.command.isEmpty then [] else [job.call]

/-- The text that a job is judged by; none counts as empty. -/
def judgedText (output : Output) : String := output.stdout.getD ""

/-- What a job results in by the reply to it. -/
def result (job : Job) : Option (Except StartError Output) → Except Failure Outcome
  | none => .error (.emptyCommand job.name)
  | some (.error e) => .error (.notStarted job.name e)
  | some (.ok output) =>
    if output.exitCode ≠ 0 then .error (.processFailed job.name output.exitCode)
    else if ¬ job.step.IsSimulation then .ok ⟨job.name, 0, output.stdout, none⟩
    else if Verdict.marker.toList <:+: (judgedText output).toList then
      .error (.contentFailed job.name (judgedText output))
    else .ok ⟨job.name, 0, output.stdout, some .pass⟩

/-- How a reply leads to the result of a job, one case for each end that a job can come to. -/
inductive LeadsTo (job : Job) : Option (Except StartError Output) → Except Failure Outcome → Prop
  | empty : job.LeadsTo none (.error (.emptyCommand job.name))
  | notStarted (e : StartError) : job.LeadsTo (some (.error e)) (.error (.notStarted job.name e))
  | processFailed (output : Output) (hexit : output.exitCode ≠ 0) :
      job.LeadsTo (some (.ok output)) (.error (.processFailed job.name output.exitCode))
  | unjudged (output : Output) (hexit : output.exitCode = 0) (hsim : ¬ job.step.IsSimulation) :
      job.LeadsTo (some (.ok output)) (.ok ⟨job.name, 0, output.stdout, none⟩)
  | contentFailed (output : Output) (hexit : output.exitCode = 0) (hsim : job.step.IsSimulation)
      (hmarker : Verdict.marker.toList <:+: (judgedText output).toList) :
      job.LeadsTo (some (.ok output)) (.error (.contentFailed job.name (judgedText output)))
  | judged (output : Output) (hexit : output.exitCode = 0) (hsim : job.step.IsSimulation)
      (hmarker : ¬ Verdict.marker.toList <:+: (judgedText output).toList) :
      job.LeadsTo (some (.ok output)) (.ok ⟨job.name, 0, output.stdout, some .pass⟩)

/-- **A reply leads to one result, and to no other.** -/
theorem result_eq_iff {job : Job} {reply : Option (Except StartError Output)}
    {r : Except Failure Outcome} :
    job.result reply = r ↔ job.LeadsTo reply r := by
  constructor
  · rintro rfl
    match reply with
    | none => exact .empty
    | some (.error e) => exact .notStarted e
    | some (.ok output) =>
      rw [result]
      split_ifs with hexit hsim hmarker
      · exact .processFailed output hexit
      · exact .contentFailed output (not_not.mp hexit) hsim hmarker
      · exact .judged output (not_not.mp hexit) hsim hmarker
      · exact .unjudged output (not_not.mp hexit) hsim
  · intro h
    cases h with
    | empty | notStarted e => rfl
    | processFailed output hexit => rw [result, if_pos hexit]
    | unjudged output hexit hsim => rw [result, if_neg (not_not.mpr hexit), if_pos hsim]
    | contentFailed output hexit hsim hmarker =>
      rw [result, if_neg (not_not.mpr hexit), if_neg (not_not.mpr hsim), if_pos hmarker]
    | judged output hexit hsim hmarker =>
      rw [result, if_neg (not_not.mpr hexit), if_neg (not_not.mpr hsim), if_neg hmarker]

/-- What follows the launch of a job in its trace: a failed process is logged, and the text of a
failed simulation is printed before that is logged. -/
def remarks : Except Failure Outcome → Trace
  | .error (.processFailed step exitCode) => [.logged (.processFailed step exitCode)]
  | .error (.contentFailed step output) => [.printed (output ++ "\n"), .logged (.markerFound step)]
  | _ => []

end Job

namespace Launcher

/-- An output is judged by the marker in it. -/
theorem judged_eq (job : Job) (outcome : Outcome) (trace : Trace) (s : σ) :
    judged job outcome trace s =
      if Verdict.marker.toList <:+: (outcome.stdout.getD "").toList then
        ⟨.error (.contentFailed job.name (outcome.stdout.getD "")),
          trace ++ [.printed (outcome.stdout.getD "" ++ "\n"), .logged (.markerFound job.name)], s⟩
      else ⟨.ok { outcome with verdict := some .pass }, trace, s⟩ := by
  cases hv : Verdict.ofOutput (outcome.stdout.getD "") with
  | fail => rw [if_pos ((Verdict.ofOutput_eq_fail_iff _).mp hv)]; simp only [judged, hv]
  | pass => rw [if_neg ((Verdict.ofOutput_eq_pass_iff _).mp hv)]; simp only [judged, hv]

/-- **All that a job does.** Without a token it is refused and nothing is launched; otherwise it is
launched once, and the reply alone decides on its result and on what is logged and printed. -/
theorem runJob_eq (l : Launcher σ) (job : Job) (s : σ) :
    l.runJob job s =
      if job.command.isEmpty then ⟨job.result none, [], s⟩
      else
        let answer := (l.launch job.call s).1
        let result := job.result (some answer.result)
        ⟨result, launchTrace job.name job.call answer ++ Job.remarks result,
          (l.launch job.call s).2⟩ := by
  by_cases hempty : job.command.isEmpty
  · simp [runJob, runCall, hempty, Job.call, Job.result]
  · have hcall : job.call.command.isEmpty = false := by simpa [Job.call] using hempty
    rcases hl : l.launch job.call s with ⟨answer, s'⟩
    rw [if_neg hempty]
    cases hr : answer.result with
    | error e => simp [runJob, runCall, hcall, hl, hr, Job.result, Job.remarks]
    | ok output =>
      by_cases hexit : output.exitCode = 0
      · have hsuccess : output.isSuccess = true := by simp [Output.isSuccess, hexit]
        by_cases hsim : job.step.IsSimulation
        · have hjudged : job.step.isJudgedByOutput = true := job.step.isJudgedByOutput_iff.mpr hsim
          by_cases hmarker : Verdict.marker.toList <:+: (output.stdout.getD "").toList <;>
            simp [runJob, runCall, hcall, hl, hr, hsuccess, hjudged, judged_eq, hmarker, Job.result,
              Job.judgedText, Job.remarks, hexit, hsim]
        · have hjudged : job.step.isJudgedByOutput = false := by
            rw [← Bool.not_eq_true, job.step.isJudgedByOutput_iff]
            exact hsim
          simp [runJob, runCall, hcall, hl, hr, hsuccess, hjudged, Job.result, Job.remarks, hexit,
            hsim]
      · have hfailed : output.isSuccess = false := by simp [Output.isSuccess, hexit]
        simp [runJob, runCall, hcall, hl, hr, hfailed, Job.result, Job.remarks, hexit]

@[simp] theorem value_runJob (l : Launcher σ) (job : Job) (s : σ) :
    (l.runJob job s).value = job.result (l.reply? s job) := by
  rw [runJob_eq, reply?]
  split <;> rfl

@[simp] theorem state_runJob (l : Launcher σ) (job : Job) (s : σ) :
    (l.runJob job s).state = l.after s job := by
  rw [runJob_eq, after]
  split <;> rfl

end Launcher

/-! ## The calls of a job -/

@[simp] theorem Job.calls_remarks (r : Except Failure Outcome) : (Job.remarks r).calls = [] := by
  cases r with
  | ok => rfl
  | error failure => cases failure <;> rfl

namespace Launcher

@[simp] theorem calls_launchTrace (step : String) (call : Call) (answer : Answer) :
    (launchTrace step call answer).calls = [call] := by
  rw [launchTrace]
  split <;> split <;> rfl

@[simp] theorem calls_runJob (l : Launcher σ) (job : Job) (s : σ) :
    (l.runJob job s).trace.calls = job.calls := by
  rw [runJob_eq, Job.calls]
  split
  · rfl
  · simp

end Launcher

end CiHarness
