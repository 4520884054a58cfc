import CiHarness.Log.Filter
import CiHarness.Proofs.Run.Sequence
import CiHarness.Proofs.Text.Pieces

/-!
# What a run logs

Without its details the log of a run says as much as the report: the run is opened with the number
of its steps, each step is announced, remarked on if its process failed or the marker was found, and
closed as passed or failed, and the run is closed by its success. By default a log is filtered by
the verbosity alone, which keeps back the details or nothing. The main statements are
`notices_runAll` and `withoutDetails_showing`.
-/
namespace CiHarness

variable {σ : Type}

/-- What an entry of the log says to a reader. -/
structure Notice where
  level : Level
  message : String
  fields : List (String × Json)

def LogEntry.notice (e : LogEntry) : Notice := ⟨e.level, e.message, e.fields⟩

/-- Details are the entries that are told only if they are asked for. -/
def LogEntry.isDetail (e : LogEntry) : Bool := e.level = .debug

namespace Trace

/-- What the log of a trace says, entry by entry. -/
def notices (t : Trace) : List Notice := t.log.map LogEntry.notice

/-- A trace without the details in its log. -/
def withoutDetails (t : Trace) : Trace := t.showing fun e => !e.isDetail

end Trace

/-! ## What is due by a report -/

/-- What is remarked on a step before it is closed, by the status that it comes to. -/
def Status.remarks (step : String) : Status → List Notice
  | .processFailed exitCode =>
    [⟨.warn, "Step process failed", [("step", .text step), ("exit_code", .integer exitCode.toInt)]⟩]
  | .contentFailed => [⟨.error, "Simulation reported failure marker", [("step", .text step)]⟩]
  | .passed => []
  | .startFailed _ => []
  | .errored _ => []

/-- What is said when a step is closed. -/
def StepReport.closingNotice (r : StepReport) : Notice :=
  if r.status = .passed then
    ⟨.info, "Step passed", [("step", .text r.name), ("duration_ms", .natural r.durationMs.toNat)]⟩
  else
    ⟨.error, "Step failed", [("step", .text r.name), ("duration_ms", .natural r.durationMs.toNat),
      ("status", .text r.status.display)]⟩

/-- What the log says of a step: that it begins, with the tokens of its command joined by a space,
the remarks on it, and that it passed or failed. -/
def StepReport.notices (r : StepReport) : List Notice :=
  [⟨.info, "Executing step",
      [("step", .text r.name), ("command", .text (" ".intercalate r.command.tokens))]⟩] ++
    r.status.remarks r.name ++ [r.closingNotice]

/-- What the log says of a run: that it begins, what it says of the steps in their order, and how it
ended. -/
def RunReport.notices (r : RunReport) : List Notice :=
  [⟨.info, "Starting CI pipeline",
    [("run_id", .text r.runId.toText), ("steps", .natural r.steps.length)]⟩] ++
    r.steps.flatMap StepReport.notices ++
    [⟨.info, if r.success then "CI pipeline completed successfully" else "CI pipeline failed",
      [("run_id", .text r.runId.toText), ("duration_ms", .natural r.durationMs.toNat)]⟩]

/-- A step is said to have failed once if it did not pass, and never if it did. -/
theorem StepReport.countP_notices (r : StepReport) :
    r.notices.countP (·.message = "Step failed") = if r.passed then 0 else 1 := by
  rw [notices, closingNotice, passed]
  cases r.status <;> simp [Status.remarks]

/-- **As many steps are said to have failed as the report counts.** -/
theorem RunReport.countP_notices (r : RunReport) :
    r.notices.countP (·.message = "Step failed") = r.failedCount := by
  have hsteps : ∀ steps : List StepReport,
      (steps.flatMap StepReport.notices).countP (·.message = "Step failed") =
        steps.countP (!·.passed) := by
    intro steps
    induction steps with
    | nil => rfl
    | cons step rest ih =>
      rw [List.flatMap_cons, List.countP_append, ih, step.countP_notices, List.countP_cons]
      cases step.passed <;> simp [Nat.add_comm]
  have hclosing : (if r.success then "CI pipeline completed successfully"
      else "CI pipeline failed") ≠ "Step failed" := by
    split <;> decide
  simp [notices, failedCount, hsteps, hclosing]

/-! ## What is logged -/

theorem LogEntry.isDetail_closing (r : StepReport) : (Launcher.closing r).isDetail = false := by
  rw [Launcher.closing]
  split <;> rfl

/-- A step is closed as its report demands. -/
theorem LogEntry.notice_closing (r : StepReport) :
    (Launcher.closing r).notice = r.closingNotice := by
  rw [Launcher.closing, StepReport.closingNotice]
  simp only [StepReport.passed_iff]
  split <;> rfl

namespace Trace

theorem withoutDetails_logged (entry : LogEntry) (t : Trace) :
    withoutDetails (.logged entry :: t) =
      if entry.isDetail then t.withoutDetails else .logged entry :: t.withoutDetails := by
  cases h : entry.isDetail <;> simp [withoutDetails, showing, h]

@[simp] theorem withoutDetails_append (t u : Trace) :
    withoutDetails (t ++ u) = t.withoutDetails ++ u.withoutDetails := showing_append t u _

@[simp] theorem notices_append (t u : Trace) :
    notices (t ++ u) = t.notices ++ u.notices := by simp [notices]

theorem notices_logged (entry : LogEntry) (t : Trace) :
    notices (.logged entry :: t) = entry.notice :: t.notices := rfl

/-- A trace between two entries that are told in any case. -/
theorem notices_enclosed {opening closing : LogEntry} (hopening : opening.isDetail = false)
    (hclosing : closing.isDetail = false) (t : Trace) :
    (withoutDetails (.logged opening :: (t ++ [.logged closing]))).notices =
      [opening.notice] ++ t.withoutDetails.notices ++ [closing.notice] := by
  have hlast : withoutDetails [.logged closing] = [.logged closing] := by
    rw [withoutDetails_logged, hclosing, if_neg Bool.false_ne_true]
    rfl
  rw [withoutDetails_logged, hopening, if_neg Bool.false_ne_true, withoutDetails_append, hlast,
    notices_logged, notices_append]
  rfl

end Trace

/-- A job is remarked on by the status of its result. -/
theorem Job.notices_remarks_result (job : Job) (reply : Option (Except StartError Output)) :
    (remarks (job.result reply)).withoutDetails.notices =
      (Status.ofResult (job.result reply)).remarks job.name := by
  generalize hresult : job.result reply = r
  cases result_eq_iff.mp hresult with
  | _ => rfl

namespace Launcher

/-- A launch is a detail. -/
theorem notices_launchTrace (step : String) (call : Call) (answer : Answer) :
    (launchTrace step call answer).withoutDetails.notices = [] := by
  rw [launchTrace]
  split <;> split <;> rfl

/-- Nothing is said of a job while it runs but the remarks on it. -/
theorem notices_runJob (l : Launcher σ) (job : Job) (s : σ) :
    (l.runJob job s).trace.withoutDetails.notices =
      (Status.ofResult (l.runJob job s).value).remarks job.name := by
  rw [runJob_eq]
  split
  · rfl
  · simp [notices_launchTrace, job.notices_remarks_result]

/-- A job of a sequence is announced, remarked on and closed. -/
theorem notices_reportJob (l : Launcher σ) (job : Job) (s : σ) :
    (l.reportJob job s).trace.withoutDetails.notices = (l.reportJob job s).value.notices := by
  calc (l.reportJob job s).trace.withoutDetails.notices
      = [(LogEntry.stepStarted job.name job.command).notice] ++
          (l.runJob job s).trace.withoutDetails.notices ++
          [(closing (l.reportJob job s).value).notice] :=
        Trace.notices_enclosed rfl (LogEntry.isDetail_closing _) _
    _ = (l.reportJob job s).value.notices := by
        rw [notices_runJob, LogEntry.notice_closing, LogEntry.notice, LogEntry.fields,
          Command.display, Text.join_eq_intercalate]
        rfl

theorem notices_reportJobs (l : Launcher σ) (jobs : List Job) (s : σ) :
    (l.reportJobs jobs s).trace.withoutDetails.notices =
      (l.reportJobs jobs s).value.flatMap StepReport.notices := by
  induction jobs generalizing s with
  | nil => rfl
  | cons job rest ih =>
    simp only [reportJobs, Trace.withoutDetails_append, Trace.notices_append, List.flatMap_cons,
      notices_reportJob, ih]

/-- **Without its details, the log of a run says what is due by the report.** -/
theorem notices_runAll (l : Launcher σ) (stamp : Stamp) (jobs : List Job) (s : σ) :
    (l.runAll stamp jobs s).trace.withoutDetails.notices =
      (l.runAll stamp jobs s).value.notices := by
  let report := (l.runAll stamp jobs s).value
  calc (l.runAll stamp jobs s).trace.withoutDetails.notices
      = [(LogEntry.runStarted stamp.runId jobs.length).notice] ++
          (l.reportJobs jobs s).trace.withoutDetails.notices ++
          [(LogEntry.runFinished stamp.runId report.durationMs report.success).notice] :=
        Trace.notices_enclosed rfl rfl _
    _ = report.notices := by
        rw [notices_reportJobs, ← l.length_reportJobs jobs s]
        rfl

end Launcher

/-! ## What is shown by default -/

namespace LogFilter

/-- The verbosity keeps nothing back but the details, and with it nothing at all. -/
theorem admits_ofVerbosity (verbose : Bool) (e : LogEntry) :
    (ofVerbosity verbose).admits e = (verbose || !e.isDetail) := by
  cases verbose <;> cases e <;> rfl

/-- Whether a filter is fatal is not a matter of the verbosity. -/
theorem choose_eq_none_iff (asked : Option String) (verbose verbose' : Bool) :
    choose asked verbose = none ↔ choose asked verbose' = none := by
  cases asked with
  | none => simp [choose]
  | some text =>
    simp only [choose]
    rcases ofText text with (_ | _) | _ <;> simp

end LogFilter

namespace Trace

/-- Without the details it is all the same how much of the log was shown. -/
theorem withoutDetails_showing (t : Trace) (verbose : Bool) :
    (t.showing (LogFilter.ofVerbosity verbose).admits).withoutDetails = t.withoutDetails := by
  rw [withoutDetails, showing_showing]
  refine congrArg t.showing (funext fun e => ?_)
  rw [LogFilter.admits_ofVerbosity]
  cases e.isDetail <;> simp

/-- By default no details are shown. -/
theorem showing_ofVerbosity_false (t : Trace) :
    t.showing (LogFilter.ofVerbosity false).admits = t.withoutDetails := by
  have hadmits : (LogFilter.ofVerbosity false).admits = fun e => !e.isDetail :=
    funext fun e => LogFilter.admits_ofVerbosity false e
  rw [hadmits, withoutDetails]

end Trace

end CiHarness
