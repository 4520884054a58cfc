import CiHarness.Failure
import CiHarness.Run.RunId
import CiHarness.Run.Timestamp
import CiHarness.Run.Verdict
import CiHarness.Container.Command

/-!
# Outcomes and reports

A step that ended well has an outcome. In a report every step has a status, which says in which of
five ways it ended, and a run as a whole succeeds if every step passed.
-/
namespace CiHarness

/-- A step whose program ended with success. The verdict is there if the output was looked at. -/
structure Outcome where
  step : String
  exitCode : Int32
  stdout : Option String
  verdict : Option Verdict
  deriving DecidableEq

/-- An outcome passes unless its exit code or its verdict speaks against it. -/
def Outcome.passed (o : Outcome) : Bool := o.exitCode == 0 && o.verdict.all Verdict.isPass

/-- How a step ended. -/
inductive Status where
  | passed
  | processFailed (exitCode : Int32)
  | contentFailed
  | startFailed (error : String)
  | errored (error : String)
  deriving DecidableEq

namespace Status

/-- The name of a status. -/
def name : Status → String
  | .passed => "passed"
  | .processFailed _ => "process_failed"
  | .contentFailed => "content_failed"
  | .startFailed _ => "start_failed"
  | .errored _ => "errored"

/-- The status of a step that ran to a result. -/
def ofResult : Except Failure Outcome → Status
  | .ok _ => .passed
  | .error (.processFailed _ exitCode) => .processFailed exitCode
  | .error (.contentFailed ..) => .contentFailed
  | .error (.notStarted step error) => .startFailed (Failure.notStarted step error).message
  | .error (.emptyCommand step) => .startFailed (Failure.emptyCommand step).message
  | .error failure => .errored failure.message

end Status

/-- What is reported about one step. -/
structure StepReport where
  name : String
  command : Command
  status : Status
  durationMs : UInt64
  deriving DecidableEq

/-- A step passed if its status says so. -/
def StepReport.passed (r : StepReport) : Bool := r.status == .passed

/-- What is reported about a run. -/
structure RunReport where
  runId : RunId
  startedAt : Timestamp
  success : Bool
  steps : List StepReport
  durationMs : UInt64
  deriving DecidableEq

namespace RunReport

/-- The number of steps that passed. -/
def passedCount (r : RunReport) : Nat := r.steps.countP (·.passed)

/-- The number of steps that did not pass. -/
def failedCount (r : RunReport) : Nat := r.steps.countP (!·.passed)

end RunReport

end CiHarness
