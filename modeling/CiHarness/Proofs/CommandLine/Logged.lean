import CiHarness.Proofs.CommandLine.Flags
import CiHarness.Proofs.CommandLine.Refusal
import CiHarness.Proofs.Run.Logged

/-!
# What is logged for the command line

The log of a run can be read in place of its report: in the order of the steps it tells of each that
it began, that its process failed or the marker was found, and whether it passed. How much of the
log is shown, and in which form, is a matter of two flags, and nothing else is: with either of them
the same programs are started, the same is printed, and the program ends alike. The main statement
is `respond_logged`.
-/
namespace CiHarness.CommandLine

variable {σ : Type}

namespace Invocation

/-- By default the log goes by the verbosity. -/
theorem logFilter?_of_unset {env : Environment} (h : env.log = none) (i : Invocation) :
    i.logFilter? env = some (.ofVerbosity i.verbose) := by
  rw [logFilter?, h]
  rfl

/-- Whether the filter for the log is fatal is not a matter of the wishes for the log. -/
theorem logFilter?_logging_eq_none_iff (env : Environment) (i : Invocation) (verbose json : Bool) :
    (i.logging verbose json).logFilter? env = none ↔ i.logFilter? env = none :=
  LogFilter.choose_eq_none_iff env.log verbose i.verbose

end Invocation

namespace Workplace

/-- Nothing that is done goes by the wishes for the log. -/
theorem perform_logging (w : Workplace σ) (i : Invocation) (verbose json : Bool) (s : σ) :
    w.perform (i.logging verbose json) s = w.perform i s := rfl

variable {w : Workplace σ} {s : σ} {env : Environment} {args args' : List String} {i : Invocation}

/-- By default, what is answered has the same log as what was performed, but for details. -/
theorem withoutDetails_respond (hlog : env.log = none)
    (h : Invocation.ofArguments env args = .ok i) :
    (w.respond env args s).trace.withoutDetails = (w.perform i s).trace.withoutDetails := by
  rw [w.respond_of_filter s h (i.logFilter?_of_unset hlog), Trace.withoutDetails_showing]

/-- Without a wish for details, there are none. -/
theorem withoutDetails_respond_of_quiet (hlog : env.log = none)
    (h : Invocation.ofArguments env args = .ok i) (hquiet : i.verbose = false) :
    (w.respond env args s).trace.withoutDetails = (w.respond env args s).trace := by
  rw [withoutDetails_respond hlog h, w.respond_of_filter s h (i.logFilter?_of_unset hlog), hquiet,
    Trace.showing_ofVerbosity_false]

/-- With known names, a run is logged as its report demands; its summary is not part of the log. -/
theorem notices_performRun (setup : Setup) {only : List String}
    (hknown : ∀ name ∈ only, Step.IsName name) (report : Bool) :
    let run := w.launcher.runAll w.stamp
      ((Step.all.filter (Step.isChosen only)).map (Job.ofStep setup)) s
    (w.performRun setup only report s).trace.withoutDetails.notices = run.value.notices := by
  intro run
  rw [w.performRun_of_isName setup report s hknown, Trace.withoutDetails_append,
    Trace.notices_append, Launcher.notices_runAll]
  exact List.append_nil _

/-- The setup in which something is performed is a detail. -/
theorem withoutDetails_perform {setup : Setup} (hlist : i.task ≠ .list)
    (hsetup : w.setup i = .ok setup) :
    (w.perform i s).trace.withoutDetails = (w.performIn setup i.task s).trace.withoutDetails := by
  rw [w.perform_of_setup_ok s hlist hsetup, Trace.withoutDetails_logged]
  rfl

/-- Two command lines that ask for the same but for the log are answered alike. -/
theorem respond_logging (h : Invocation.ofArguments env args = .ok i) {verbose json : Bool}
    (h' : Invocation.ofArguments env args' = .ok (i.logging verbose json)) :
    (w.respond env args' s).conclusion = (w.respond env args s).conclusion ∧
    (w.respond env args' s).trace.unlogged = (w.respond env args s).trace.unlogged ∧
    (w.respond env args' s).state = (w.respond env args s).state := by
  cases hfilter : i.logFilter? env with
  | none =>
    have hfatal := (i.logFilter?_logging_eq_none_iff env verbose json).mpr hfilter
    rw [w.respond_of_fatal s h hfilter, w.respond_of_fatal s h' hfatal]
    exact ⟨rfl, rfl, rfl⟩
  | some filter =>
    have hsome : (i.logging verbose json).logFilter? env ≠ none := by
      rw [ne_eq, i.logFilter?_logging_eq_none_iff env verbose json, hfilter]
      exact Option.some_ne_none filter
    obtain ⟨filter', hfilter'⟩ := Option.ne_none_iff_exists'.mp hsome
    rw [w.respond_of_filter s h hfilter, w.respond_of_filter s h' hfilter', perform_logging]
    simp

/-- **The log of a run matches its report, and wishes for the log change nothing else.** At every
launcher and for all jobs, the reports have the names and the commands of the jobs, and what is
shown of the log by default is what is due by the reports: as many steps are said to have failed as
the report counts. What is shown with all details is the same as soon as those are left out. So it
is with the program if no filter is asked for. With `--verbose` or `--json` in front of a command
line that did without, all that is asked for besides is the same; and whenever two command lines
differ in nothing else, the same programs are started, the same is printed, and the program ends
alike. -/
theorem respond_logged (w : Workplace σ) (s : σ) :
    (∀ (stamp : Stamp) (jobs : List Job),
      let run := w.launcher.runAll stamp jobs s
      let quiet := run.trace.showing (LogFilter.ofVerbosity false).admits
      let loud := run.trace.showing (LogFilter.ofVerbosity true).admits
      (run.value.steps.map fun r => (r.name, r.command)) =
        (jobs.map fun job => (job.name, job.command)) ∧
      quiet.notices = run.value.notices ∧
      quiet.notices.countP (·.message = "Step failed") = run.value.failedCount ∧
      loud.withoutDetails = quiet) ∧
    (∀ env args i, env.log = none → Invocation.ofArguments env args = .ok i →
      let r := w.respond env args s
      (i.verbose = false → r.trace.withoutDetails = r.trace) ∧
      ∀ only report setup, i.task = .run only report → w.setup i = .ok setup →
        (∀ name ∈ only, Step.IsName name) →
        let run := w.launcher.runAll w.stamp
          ((Step.all.filter (Step.isChosen only)).map (Job.ofStep setup)) s
        r.trace.withoutDetails.notices = run.value.notices) ∧
    ∀ env args i, Invocation.ofArguments env args = .ok i →
      (i.verbose = false → Invocation.ofArguments env ("--verbose" :: args) =
        .ok (i.logging true i.json)) ∧
      (i.json = false → Invocation.ofArguments env ("--json" :: args) =
        .ok (i.logging i.verbose true)) ∧
      ∀ args' verbose json, Invocation.ofArguments env args' = .ok (i.logging verbose json) →
        let r := w.respond env args s
        let r' := w.respond env args' s
        r'.conclusion = r.conclusion ∧ r'.trace.calls = r.trace.calls ∧
        r'.trace.stdout = r.trace.stdout ∧
        r'.trace.unlogged = r.trace.unlogged ∧ r'.state = r.state ∧
        (env.log = none → r'.trace.withoutDetails = r.trace.withoutDetails) := by
  refine ⟨?run, ?shown, ?flags⟩
  case run =>
    intro stamp jobs run quiet loud
    have hquiet : quiet = run.trace.withoutDetails := run.trace.showing_ofVerbosity_false
    have hnotices : quiet.notices = run.value.notices := by
      rw [hquiet]
      exact w.launcher.notices_runAll stamp jobs s
    refine ⟨Launcher.map_reportJobs (fun _ _ => rfl) jobs s, hnotices, ?_, ?_⟩
    · rw [hnotices, RunReport.countP_notices]
    · rw [hquiet]
      exact run.trace.withoutDetails_showing true
  case shown =>
    intro env args i hlog hi r
    refine ⟨withoutDetails_respond_of_quiet hlog hi, ?_⟩
    intro only report setup htask hsetup hknown run
    have hlist : i.task ≠ .list := by simp [htask]
    rw [withoutDetails_respond hlog hi, withoutDetails_perform hlist hsetup, htask]
    exact notices_performRun setup hknown report
  case flags =>
    intro env args i hi
    refine ⟨Invocation.ofArguments_verbose_cons hi, Invocation.ofArguments_json_cons hi, ?_⟩
    intro args' verbose json hi' r r'
    obtain ⟨hconclusion, hunlogged, hstate⟩ := respond_logging (w := w) (s := s) hi hi'
    refine ⟨hconclusion, Trace.calls_congr hunlogged, Trace.stdout_congr hunlogged, hunlogged,
      hstate, ?_⟩
    intro hlog
    rw [withoutDetails_respond hlog hi, withoutDetails_respond hlog hi', perform_logging]

/-- A format check and a simulation, both of whose programs write the marker: the log tells the two
apart, and it is the same log with both flags, once the details are left out. -/
theorem respond_logged_of_marker :
    let w := sample Verdict.markerBytes
    let args := ["run", "--only", "sim:fsm", "--only", "fmt"]
    let quiet := w.respond (.sample none) args ()
    let loud := w.respond (.sample none) ("--json" :: "--verbose" :: args) ()
    quiet.trace.notices.map (·.message) =
      ["Starting CI pipeline", "Executing step", "Step passed", "Executing step",
        "Simulation reported failure marker", "Step failed", "CI pipeline failed"] ∧
    loud.trace.withoutDetails = quiet.trace ∧ loud.conclusion = quiet.conclusion ∧
    loud.trace.calls = quiet.trace.calls ∧ loud.trace.stdout = quiet.trace.stdout := by
  intro w args quiet loud
  have hi : Invocation.ofArguments (.sample none) args =
      .ok ⟨false, false, false, ⟨"/proj/ci"⟩, none, .run ["sim:fsm", "fmt"] false⟩ := by decide
  have hchosen : Step.all.filter (Step.isChosen ["sim:fsm", "fmt"]) = [.fmt, .simulate .fsm] := by
    decide
  obtain ⟨-, hshown, hflags⟩ := respond_logged w ()
  obtain ⟨hquiet, hrun⟩ := hshown (.sample none) args _ rfl hi
  obtain ⟨hverbose, -, hsame⟩ := hflags (.sample none) args _ hi
  obtain ⟨-, hjson, -⟩ := hflags (.sample none) ("--verbose" :: args) _ (hverbose rfl)
  obtain ⟨hconclusion, hcalls, hstdout, -, -, hlogged⟩ :=
    hsame ("--json" :: "--verbose" :: args) true true (hjson rfl)
  have hnotices := hrun ["sim:fsm", "fmt"] false (Setup.sample false) rfl (by decide) (by decide)
  refine ⟨?_, (hlogged rfl).trans (hquiet rfl), hconclusion, hcalls, hstdout⟩
  rw [hquiet rfl, hchosen] at hnotices
  rw [hnotices]
  decide

end Workplace

end CiHarness.CommandLine
