import CiHarness.Json.Basic
import CiHarness.Log.Level
import CiHarness.Run.Launcher
import CiHarness.Run.Outcome
import CiHarness.Step.Setup

/-!
# Log entries

What the harness tells about its work while it works. An entry has a level, a target, which names
the part of the harness that speaks, a message and fields. Entries never change what the harness
does.
-/
namespace CiHarness

/-- Something worth telling. -/
inductive LogEntry where
  | setupResolved (setup : Setup)
  | runStarted (runId : RunId) (steps : Nat)
  | stepStarted (step : String) (command : Command)
  | launching (step : String) (call : Call)
  | processFailed (step : String) (exitCode : Int32)
  | markerFound (step : String)
  | stepPassed (step : String) (durationMs : UInt64)
  | stepFailed (step : String) (durationMs : UInt64) (status : Status)
  | runFinished (runId : RunId) (durationMs : UInt64) (success : Bool)
  | singleStarted (step : String) (command : Command)
  | singlePassed (step : String)
  deriving DecidableEq

/-- A status as it is shown in a log line: its name and its fields. -/
def Status.display : Status → String
  | .passed => "Passed"
  | .processFailed exitCode =>
    "ProcessFailed \x7b exit_code: " ++ toString exitCode.toInt ++ " \x7d"
  | .contentFailed => "ContentFailed"
  | .startFailed error => "StartFailed \x7b error: " ++ Text.quoted error ++ " \x7d"
  | .errored error => "Errored \x7b error: " ++ Text.quoted error ++ " \x7d"

namespace LogEntry

def level : LogEntry → Level
  | .setupResolved _ => .debug
  | .runStarted .. => .info
  | .stepStarted .. => .info
  | .launching .. => .debug
  | .processFailed .. => .warn
  | .markerFound _ => .error
  | .stepPassed .. => .info
  | .stepFailed .. => .error
  | .runFinished .. => .info
  | .singleStarted .. => .info
  | .singlePassed _ => .info

/-- The part of the harness that speaks. -/
def target : LogEntry → String
  | .setupResolved _ => "reticle_ci::config"
  | .launching .. => "reticle_ci::runner"
  | .processFailed .. => "reticle_ci::runner"
  | .singleStarted .. => "reticle_ci"
  | .singlePassed _ => "reticle_ci"
  | _ => "reticle_ci::pipeline"

def message : LogEntry → String
  | .setupResolved _ => "Resolved harness configuration"
  | .runStarted .. => "Starting CI pipeline"
  | .stepStarted .. => "Executing step"
  | .launching .. => "Spawning step"
  | .processFailed .. => "Step process failed"
  | .markerFound _ => "Simulation reported failure marker"
  | .stepPassed .. => "Step passed"
  | .stepFailed .. => "Step failed"
  | .runFinished _ _ success =>
    if success then "CI pipeline completed successfully" else "CI pipeline failed"
  | .singleStarted .. => "Executing step"
  | .singlePassed _ => "Step passed"

/-- The fields of an entry besides its message. -/
def fields : LogEntry → List (String × Json)
  | .setupResolved setup =>
    [("user", .text setup.identity.userOption),
      ("project_root", .text setup.layout.projectRoot.text),
      ("ci_dir", .text setup.layout.ciDir.text), ("containerized", .bool setup.containerized)]
  | .runStarted runId steps => [("run_id", .text runId.toText), ("steps", .natural steps)]
  | .stepStarted step command => [("step", .text step), ("command", .text command.display)]
  | .launching step call =>
    [("step", .text step), ("command", .text call.command.display), ("dir", .text call.dir.text),
      ("capture", .bool call.capture)]
  | .processFailed step exitCode => [("step", .text step), ("exit_code", .integer exitCode.toInt)]
  | .markerFound step => [("step", .text step)]
  | .stepPassed step durationMs =>
    [("step", .text step), ("duration_ms", .natural durationMs.toNat)]
  | .stepFailed step durationMs status =>
    [("step", .text step), ("duration_ms", .natural durationMs.toNat),
      ("status", .text status.display)]
  | .runFinished runId durationMs _ =>
    [("run_id", .text runId.toText), ("duration_ms", .natural durationMs.toNat)]
  | .singleStarted step command => [("step", .text step), ("command", .text command.display)]
  | .singlePassed step => [("step", .text step)]

/-- An entry as a JSON object; the time of a log line is added by whoever writes it. -/
def toJson (e : LogEntry) : Json :=
  .object [("level", .text e.level.name),
    ("fields", .object (("message", .text e.message) :: e.fields))]

end LogEntry

end CiHarness
