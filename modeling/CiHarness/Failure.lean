import CiHarness.Failure.Cause
import CiHarness.Path

/-!
# Failures

What can go wrong between reading the configuration and judging the last step. A failure belongs
either to the environment, and then no step is attempted, or to one step, and then the next step
still runs. Only a program that could not be started has a further cause below it.
-/
namespace CiHarness

/-- A failure of the harness. -/
inductive Failure where
  | identityUnavailable (reason : String)
  | invalidPath (path : Path) (fault : LayoutFault)
  | invalidProfile (profile : String) (fault : ProfileFault)
  | unknownStep (name : String)
  | emptyCommand (step : String)
  | notStarted (step : String) (error : StartError)
  | processFailed (step : String) (exitCode : Int32)
  | contentFailed (step : String) (output : String)
  deriving DecidableEq

namespace Failure

/-- The wording of a failure. -/
def message : Failure → String
  | .identityUnavailable reason => "host identity unavailable: " ++ reason
  | .invalidPath path fault =>
    "invalid harness directory " ++ path.quoted ++ ": " ++ fault.message
  | .invalidProfile profile fault =>
    "invalid execution profile '" ++ profile ++ "': " ++ fault.message
  | .unknownStep name => "unknown step: " ++ name
  | .emptyCommand step => "step '" ++ step ++ "' has empty command"
  | .notStarted step error => "step '" ++ step ++ "' could not be started: " ++ error.message
  | .processFailed step exitCode =>
    "step '" ++ step ++ "' exited with code " ++ toString exitCode.toInt
  | .contentFailed step _ => "step '" ++ step ++ "' reported a simulation failure"

/-- The cause below a failure. -/
def cause? : Failure → Option StartError
  | .notStarted _ error => some error
  | _ => none

/-- The step that a failure belongs to; none for a failure of the environment. -/
def step? : Failure → Option String
  | .emptyCommand step => some step
  | .notStarted step _ => some step
  | .processFailed step _ => some step
  | .contentFailed step _ => some step
  | _ => none

/-- A failure belongs to one step rather than to the environment. -/
def isStepFailure (f : Failure) : Bool := f.step?.isSome

end Failure

end CiHarness
