import CiHarness.CommandLine.Complaint
import CiHarness.CommandLine.Invocation
import CiHarness.CommandLine.Summary
import CiHarness.Log.Filter
import CiHarness.Run.Sequence

/-!
# Performing an invocation

An invocation is performed at a workplace, which answers questions about files and starts programs.
The setup is made before anything else, and names of steps are looked at before any program is
started; the list of steps needs neither. How much is logged, and in which form, changes nothing of
what is done or printed. Whatever is printed is taken to arrive: no writing to the standard output
fails.
-/
namespace CiHarness.CommandLine

variable {σ : Type}

/-- Where an invocation is performed. -/
structure Workplace (σ : Type) where
  files : FileView
  identity : Identity
  launcher : Launcher σ
  stamp : Stamp

namespace Workplace

/-- Lines that are printed, each with a new line after it. -/
def printing (lines : List String) : Trace := lines.map fun line => .printed (line ++ "\n")

/-- The names of all steps are printed. -/
def performList (s : σ) : Ran σ (Option Complaint) :=
  ⟨none, printing (Step.all.map Step.name), s⟩

/-- The command of a step is printed and nothing is started. -/
def performPreview (setup : Setup) (name : String) (s : σ) : Ran σ (Option Complaint) :=
  match Job.ofName setup name with
  | .error failure => ⟨some (.selection failure), [], s⟩
  | .ok job => ⟨none, printing [job.command.display], s⟩

/-- One step is run; its failure is the program's. -/
def performStep (w : Workplace σ) (setup : Setup) (name : String) (s : σ) :
    Ran σ (Option Complaint) :=
  match Job.ofName setup name with
  | .error failure => ⟨some (.selection failure), [], s⟩
  | .ok job =>
    let ran := w.launcher.runJob job s
    let started : Trace := [.logged (.singleStarted job.name job.command)]
    match ran.value with
    | .error failure => ⟨some (.step job.name failure), started ++ ran.trace, ran.state⟩
    | .ok _ =>
      ⟨none, started ++ ran.trace ++ [.logged (.singlePassed job.name)], ran.state⟩

/-- Steps are run and the run is summed up. -/
def performRun (w : Workplace σ) (setup : Setup) (only : List String) (report : Bool) (s : σ) :
    Ran σ (Option Complaint) :=
  match Job.select setup only with
  | .error failure => ⟨some (.selection failure), [], s⟩
  | .ok jobs =>
    let ran := w.launcher.runAll w.stamp jobs s
    let summary := if report then Summary.json ran.value else Summary.text ran.value
    ⟨if ran.value.success then none else some (.steps ran.value.failedCount),
      ran.trace ++ [.printed summary], ran.state⟩

/-- A task that needs a setup is performed in it. -/
def performIn (w : Workplace σ) (setup : Setup) (task : Task) (s : σ) : Ran σ (Option Complaint) :=
  match task with
  | .run only report => w.performRun setup only report s
  | .step name => w.performStep setup name s
  | .list => performList s
  | .preview name => performPreview setup name s

/-- The setup that an invocation asks for. -/
def setup (w : Workplace σ) (i : Invocation) : Except Failure Setup :=
  Setup.resolve w.files w.identity i.ciDir i.runtime i.containerized

/-- An invocation is performed. -/
def perform (w : Workplace σ) (i : Invocation) (s : σ) : Ran σ (Option Complaint) :=
  match i.task with
  | .list => performList s
  | task =>
    match w.setup i with
    | .error failure => ⟨some (.environment failure), [], s⟩
    | .ok setup =>
      let ran := w.performIn setup task s
      ⟨ran.value, .logged (.setupResolved setup) :: ran.trace, ran.state⟩

end Workplace

/-- The filter for the log of an invocation; none if the one that is asked for is fatal. -/
def Invocation.logFilter? (env : Environment) (i : Invocation) : Option LogFilter :=
  LogFilter.choose env.log i.verbose

/-- How the program ends. -/
inductive Conclusion where
  | succeeded
  | failed (complaint : Complaint)
  | misused
  /-- The program broke off before it did anything. -/
  | aborted
  deriving DecidableEq

namespace Conclusion

/-- The conclusion of an invocation. -/
def ofComplaint : Option Complaint → Conclusion
  | none => .succeeded
  | some complaint => .failed complaint

/-- The exit code of the program. A program that breaks off ends with 101 where a panic unwinds;
built so that a panic aborts at once, as the release profile has it, it is ended by a signal and has
no exit code. -/
def exitCode : Conclusion → UInt8
  | .succeeded => 0
  | .failed _ => 1
  | .misused => 2
  | .aborted => 101

/-- The complaint, if there is one; nothing else has a wording of its own. -/
def complaint? : Conclusion → Option Complaint
  | .failed complaint => some complaint
  | _ => none

end Conclusion

/-- What the program answers: how it ends, all that can be seen of it with the part of the log that
is shown, and whether the log is shown as JSON. -/
structure Response (σ : Type) where
  conclusion : Conclusion
  trace : Trace
  logsJson : Bool
  state : σ

namespace Response

/-- All bytes on standard error: what is seen there, and the complaint at the end. -/
def stderr (r : Response σ) (line : LogEntry → String) : List UInt8 :=
  r.trace.stderr line ++
    r.conclusion.complaint?.elim [] fun complaint => Text.Utf8.encode (complaint.text ++ "\n")

end Response

/-- What is answered where reading stopped: the text that was asked for, or nothing. -/
def Stop.response (stop : Stop) (env : Environment) (s : σ) : Response σ :=
  match stop with
  | .help topic => ⟨.succeeded, [.printed (topic.text env)], false, s⟩
  | .version => ⟨.succeeded, [.printed versionText], false, s⟩
  | .misuse => ⟨.misused, [], false, s⟩

namespace Workplace

/-- What is answered to an invocation. -/
def answer (w : Workplace σ) (env : Environment) (i : Invocation) (s : σ) : Response σ :=
  match i.logFilter? env with
  | none => ⟨.aborted, [], false, s⟩
  | some filter =>
    let ran := w.perform i s
    ⟨.ofComplaint ran.value, ran.trace.showing filter.admits, i.json, ran.state⟩

/-- The program, from its arguments on. -/
def respond (w : Workplace σ) (env : Environment) (args : List String) (s : σ) : Response σ :=
  match Invocation.ofArguments env args with
  | .error stop => stop.response env s
  | .ok i => w.answer env i s

end Workplace

end CiHarness.CommandLine
