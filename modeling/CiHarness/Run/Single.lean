import CiHarness.Run.Trace
import CiHarness.Step.Job

/-!
# Running one step

A step is launched once, if its command has a token at all. A program that ends with another exit
code than zero has failed, whatever it wrote. A simulation that ended well is then judged by the
output that was kept, which counts as empty if none was; on a failure the output is printed in full.
-/
namespace CiHarness

variable {σ : Type}

/-- The call of a job. -/
def Job.call (job : Job) : Call := ⟨job.command, job.dir, job.capture⟩

namespace Launcher

/-- What a launch leaves in the trace: the call, and the bytes that passed through. -/
def launchTrace (step : String) (call : Call) (answer : Answer) : Trace :=
  [.logged (.launching step call), .called call] ++
    (if answer.complained.isEmpty then [] else [.complained answer.complained]) ++
    if answer.passedThrough.isEmpty then [] else [.passedThrough answer.passedThrough]

/-- A program is run for a step, and its exit code is looked at. -/
def runCall (l : Launcher σ) (step : String) (call : Call) (s : σ) :
    Ran σ (Except Failure Outcome) :=
  if call.command.isEmpty then ⟨.error (.emptyCommand step), [], s⟩
  else
    let (answer, s) := l.launch call s
    let trace := launchTrace step call answer
    match answer.result with
    | .error e => ⟨.error (.notStarted step e), trace, s⟩
    | .ok output =>
      if output.isSuccess then ⟨.ok ⟨step, output.exitCode, output.stdout, none⟩, trace, s⟩
      else
        ⟨.error (.processFailed step output.exitCode),
          trace ++ [.logged (.processFailed step output.exitCode)], s⟩

/-- The output of a simulation is judged; the trace goes on from the one before. -/
def judged (job : Job) (outcome : Outcome) (trace : Trace) (s : σ) :
    Ran σ (Except Failure Outcome) :=
  let output := outcome.stdout.getD ""
  match Verdict.ofOutput output with
  | .fail =>
    ⟨.error (.contentFailed job.name output),
      trace ++ [.printed (output ++ "\n"), .logged (.markerFound job.name)], s⟩
  | .pass => ⟨.ok { outcome with verdict := some .pass }, trace, s⟩

/-- A job is run, and judged if it is a simulation. -/
def runJob (l : Launcher σ) (job : Job) (s : σ) : Ran σ (Except Failure Outcome) :=
  let ran := l.runCall job.name job.call s
  match ran.value with
  | .error _ => ran
  | .ok outcome =>
    if job.step.isJudgedByOutput then judged job outcome ran.trace ran.state else ran

end Launcher

end CiHarness
