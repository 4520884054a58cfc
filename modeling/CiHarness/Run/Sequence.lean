import CiHarness.Run.Single

/-!
# Running steps in sequence

Steps run one after another, and a step that fails does not keep the next one from running. Every
step gets one report, in the order of the steps; the run succeeds if all of them passed.
-/
namespace CiHarness

variable {σ : Type}

/-- The identifier of a run and the time of its start. -/
structure Stamp where
  runId : RunId
  startedAt : Timestamp
  deriving DecidableEq

namespace Launcher

/-- The time between two states, on the launcher's clock. -/
def elapsed (l : Launcher σ) (before after : σ) : UInt64 :=
  UInt64.ofNat (l.clock after - l.clock before)

/-- The log entry that closes a step. -/
def closing (r : StepReport) : LogEntry :=
  if r.passed then .stepPassed r.name r.durationMs else .stepFailed r.name r.durationMs r.status

/-- One job of a sequence: it is announced, run, and reported. -/
def reportJob (l : Launcher σ) (job : Job) (s : σ) : Ran σ StepReport :=
  let ran := l.runJob job s
  let report : StepReport :=
    ⟨job.name, job.command, Status.ofResult ran.value, l.elapsed s ran.state⟩
  ⟨report, .logged (.stepStarted job.name job.command) :: (ran.trace ++ [.logged (closing report)]),
    ran.state⟩

/-- The reports of jobs that run one after another. -/
def reportJobs (l : Launcher σ) : List Job → σ → Ran σ (List StepReport)
  | [], s => ⟨[], [], s⟩
  | job :: rest, s =>
    let first := l.reportJob job s
    let others := l.reportJobs rest first.state
    ⟨first.value :: others.value, first.trace ++ others.trace, others.state⟩

/-- A whole run, with its opening and closing log entries. -/
def runAll (l : Launcher σ) (stamp : Stamp) (jobs : List Job) (s : σ) : Ran σ RunReport :=
  let ran := l.reportJobs jobs s
  let report : RunReport :=
    ⟨stamp.runId, stamp.startedAt, ran.value.all (·.passed), ran.value, l.elapsed s ran.state⟩
  ⟨report,
    .logged (.runStarted stamp.runId jobs.length) ::
      (ran.trace ++ [.logged (.runFinished stamp.runId report.durationMs report.success)]),
    ran.state⟩

end Launcher

end CiHarness
