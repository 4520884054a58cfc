import CiHarness.Proofs.CommandLine.Refusal
import CiHarness.Proofs.Run.Printed

/-!
# What is written to standard output

While steps run, the harness itself writes only the texts of simulations that fail by their content,
each when its step is over and before the next one is launched. What uncaptured programs write
stands between those texts as it comes, and the summary stands after all of it. The main statement
is `performRun_output`.
-/
namespace CiHarness.CommandLine.Workplace

variable {σ : Type} (w : Workplace σ)

/-- The program writes to standard output what its task does. -/
theorem stdout_respond {env : Environment} {args : List String} {i : Invocation} (s : σ)
    (h : Invocation.ofArguments env args = .ok i) (hfilter : i.logFilter? env ≠ none)
    (hlist : i.task ≠ .list)
    {setup : Setup} (hsetup : w.setup i = .ok setup) :
    (w.respond env args s).trace.stdout = (w.performIn setup i.task s).trace.stdout := by
  obtain ⟨filter, hsome⟩ := Option.ne_none_iff_exists'.mp hfilter
  rw [w.respond_of_filter s h hsome, w.perform_of_setup_ok s hlist hsetup, Trace.stdout_showing]
  rfl

/-- **What the harness prints during a run.** A job that fails by its content prints the text of
that failure and a new line, and this is all of the text that was kept; every other job prints
nothing. A run shows, but for its log, the episodes of its jobs one after another, so that a text is
printed before the next job is launched; and what it prints are the kept texts of the steps whose
status is a failure by content, in their order and each once. When steps are run for the command
line, on standard output come the bytes of uncaptured programs and those texts, step by step, and at
the very end the summary; and that is all that the program writes there. -/
theorem performRun_output :
    (∀ (job : Job) (s : σ),
      let ran := w.launcher.runJob job s
      (∀ step output, ran.value = .error (.contentFailed step output) →
        ran.trace.printed = [output ++ "\n"] ∧
          (w.launcher.launch job.call s).1.result = .ok ⟨0, some output⟩) ∧
      ((∀ step output, ran.value ≠ .error (.contentFailed step output)) → ran.trace.printed = [])) ∧
    (∀ (stamp : Stamp) (jobs : List Job) (s : σ),
      let run := w.launcher.runAll stamp jobs s
      let answered := w.launcher.answers jobs s
      (run.value.steps.map (·.status) = answered.map fun (job, answer) => job.due answer.result) ∧
      (run.trace.printed = answered.flatMap fun (job, answer) => job.transcript answer.result) ∧
      (run.trace.unlogged = answered.flatMap fun (job, answer) => job.episode answer)) ∧
    ∀ (setup : Setup) (only : List String) (report : Bool) (s : σ),
      (∀ name ∈ only, Step.IsName name) →
      let ran := w.performRun setup only report s
      let jobs := (Step.all.filter (Step.isChosen only)).map (Job.ofStep setup)
      let run := w.launcher.runAll w.stamp jobs s
      let answered := w.launcher.answers jobs s
      let summary := if report then Summary.json run.value else Summary.text run.value
      (ran.trace.unlogged = (answered.flatMap fun (job, answer) => job.episode answer) ++
        [.printed summary]) ∧
      (ran.trace.stdout =
        (answered.flatMap fun (job, answer) =>
          answer.passedThrough ++ (job.transcript answer.result).flatMap Text.Utf8.encode) ++
        Text.Utf8.encode summary) ∧
      ∀ env args (i : Invocation), Invocation.ofArguments env args = .ok i →
        i.task = .run only report →
        w.setup i = .ok setup → i.logFilter? env ≠ none →
        (w.respond env args s).trace.stdout = ran.trace.stdout := by
  refine ⟨fun job s => ⟨fun step output hvalue => Launcher.printed_runJob_of_contentFailed hvalue,
    Launcher.printed_runJob_eq_nil⟩, ?run, ?command⟩
  case run =>
    intro stamp jobs s
    exact ⟨w.launcher.status_reportJobs jobs s, w.launcher.printed_runAll stamp jobs s,
      w.launcher.unlogged_runAll stamp jobs s⟩
  case command =>
    intro setup only report s hknown ran jobs run answered summary
    have hran : ran = _ := w.performRun_of_isName setup report s hknown
    have htokens : ∀ job ∈ jobs, job.command.isEmpty = false := fun job hjob =>
      Job.isEmpty_command_of_mem hjob
    refine ⟨?_, ?_, ?_⟩
    · rw [hran]
      simp [Launcher.unlogged_runAll, answered, jobs, summary, run]
    · rw [hran]
      simp [Launcher.stdout_runAll _ _ _ htokens, answered, jobs, summary, run]
    · intro env args i hi htask hsetup hfilter
      rw [w.stdout_respond s hi hfilter (by simp [htask]) hsetup, htask]
      rfl

/-- A format check and a simulation, both of whose programs write the marker: the first one writes
past the harness, the text of the second one is printed, and the summary comes last. -/
theorem performRun_output_of_markers :
    let w := sample Verdict.markerBytes
    let jobs := [Step.fmt, .simulate .fsm].map (Job.ofStep (Setup.sample false))
    (w.respond (.sample none) ["run", "--only", "sim:fsm", "--only", "fmt"] ()).trace.stdout =
      Verdict.markerBytes ++ (Verdict.markerBytes ++ [0x0A]) ++
        Text.Utf8.encode (Summary.text (w.launcher.runAll w.stamp jobs ()).value) := by
  intro w jobs
  have hchosen : Step.all.filter (Step.isChosen ["sim:fsm", "fmt"]) = [.fmt, .simulate .fsm] := by
    decide
  have hi : Invocation.ofArguments (.sample none) ["run", "--only", "sim:fsm", "--only", "fmt"] =
      .ok ⟨false, false, false, ⟨"/proj/ci"⟩, none, .run ["sim:fsm", "fmt"] false⟩ := by decide
  have hbytes : ((w.launcher.answers jobs ()).flatMap fun (job, answer) =>
      answer.passedThrough ++ (job.transcript answer.result).flatMap Text.Utf8.encode) =
      Verdict.markerBytes ++ (Verdict.markerBytes ++ [0x0A]) := by decide
  obtain ⟨-, -, hcommand⟩ := performRun_output w
  obtain ⟨-, hstdout, hrespond⟩ :=
    hcommand (Setup.sample false) ["sim:fsm", "fmt"] false () (by decide)
  rw [hrespond _ _ _ hi rfl (by decide) (by decide), hstdout, hchosen, hbytes]
  rfl

end CiHarness.CommandLine.Workplace
