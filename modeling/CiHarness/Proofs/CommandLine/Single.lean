import CiHarness.Proofs.CommandLine.Refusal

/-!
# One step by three tasks

A step can be previewed, run alone, or run as a selection of one. The three find their job by ways
of their own, and the last two run it by ways of their own, but all agree: they know the same names,
the preview tells the command that the others launch, and the others succeed alike. The main
statement is `one_step_agrees`.
-/
namespace CiHarness

variable {σ : Type}

/-- A run of one job succeeds exactly if the job runs well. -/
theorem Launcher.success_runAll_singleton (l : Launcher σ) (stamp : Stamp) (job : Job) (s : σ) :
    (l.runAll stamp [job] s).value.success = true ↔ ∃ outcome,
      (l.runJob job s).value = .ok outcome := by
  rw [← Status.ofResult_eq_passed_iff, success_runAll_iff]
  simp [runAll, reportJobs, reportJob]

namespace CommandLine.Workplace

variable (w : Workplace σ) (setup : Setup) {name : String} {job : Job} (s : σ)

/-- A preview of a known name prints the command of its job. -/
theorem performPreview_of_ofName (h : Job.ofName setup name = .ok job) :
    performPreview setup name s = ⟨none, [.printed (job.command.display ++ "\n")], s⟩ := by
  rw [performPreview, h]
  rfl

/-- A step that is run alone is launched once, and there is nothing to complain about if it runs
well. -/
theorem performStep_of_ofName (h : Job.ofName setup name = .ok job)
    (hne : job.command.isEmpty = false) :
    (w.performStep setup name s).trace.calls = [job.call] ∧
    (w.performStep setup name s).state = (w.launcher.launch job.call s).2 ∧
    ((w.performStep setup name s).value = none ↔ ∃ outcome,
      (w.launcher.runJob job s).value = .ok outcome) := by
  simp only [performStep, h]
  cases (w.launcher.runJob job s).value <;> simp [Job.calls, Launcher.after, hne]

/-- A selection of one launches its step once, and there is nothing to complain about if it runs
well. -/
theorem performRun_of_select (h : Job.select setup [name] = .ok [job])
    (hne : job.command.isEmpty = false) (report : Bool) :
    (w.performRun setup [name] report s).trace.calls = [job.call] ∧
    (w.performRun setup [name] report s).state = (w.launcher.launch job.call s).2 ∧
    ((w.performRun setup [name] report s).value = none ↔
      ∃ outcome, (w.launcher.runJob job s).value = .ok outcome) := by
  have hsuccess := w.launcher.success_runAll_singleton w.stamp job s
  simp only [performRun, h]
  refine ⟨?_, ?_, ?_⟩
  · simp [Launcher.calls_runAll, Job.launches_cons, Job.calls, hne]
  · simp [Launcher.state_runAll, Launcher.after, hne]
  · rw [← hsuccess]
    simp

/-- By a name of no step, each of the three tasks is refused alike. -/
theorem performIn_of_not_isName (hname : ¬ Step.IsName name) {task : Task}
    (htask : task.names = [name]) :
    w.performIn setup task s = ⟨some (.selection (.unknownStep name)), [], s⟩ := by
  have hbefore : ∀ n ∈ ([] : List String), Step.IsName n := by simp
  exact w.performIn_of_unknown s setup (htask.trans (List.nil_append [name]).symm) hbefore hname

/-- There is nothing to complain about a step exactly if there is nothing to complain about a
selection of it. -/
theorem value_performIn_step_eq_none_iff (name : String) (report : Bool) :
    (w.performIn setup (.step name) s).value = none ↔
      (w.performIn setup (.run [name] report) s).value = none := by
  by_cases hname : Step.IsName name
  · obtain ⟨step, hstep⟩ := hname
    have hne := Job.isEmpty_command_ofStep setup step
    have hstepped := w.performStep_of_ofName setup s (Job.ofName_of_ofName setup hstep) hne
    have hran := w.performRun_of_select setup s (Job.select_singleton setup hstep) hne report
    exact hstepped.2.2.trans hran.2.2.symm
  · rw [w.performIn_of_not_isName setup s hname rfl, w.performIn_of_not_isName setup s hname rfl]

/-- **A preview, a step and a selection of one agree.** A name gives the same job alone and in a
selection, or the same complaint. The preview of a known name prints, joined by spaces, the tokens
of the one call that is made for the step and for the selection, with the same directory and
capture, and both move the launcher on by that launch alone; by an unknown name all three do nothing
but complain. Whatever the launcher answers, the step comes to exit code 0 exactly if the selection
does, in a setup and as the whole program. -/
theorem one_step_agrees (name : String) (report : Bool) :
    let shown := w.performIn setup (.preview name) s
    let stepped := w.performIn setup (.step name) s
    let ran := w.performIn setup (.run [name] report) s
    ((Job.ofName setup name = .error (.unknownStep name) ∧
        Job.select setup [name] = .error (.unknownStep name)) ∨
      ∃ job, Job.ofName setup name = .ok job ∧ Job.select setup [name] = .ok [job]) ∧
    (∀ job, Job.ofName setup name = .ok job →
      shown = ⟨none, [.printed (" ".intercalate job.call.command.tokens ++ "\n")], s⟩ ∧
      stepped.trace.calls = [job.call] ∧ ran.trace.calls = [job.call] ∧
      stepped.state = (w.launcher.launch job.call s).2 ∧
        ran.state = (w.launcher.launch job.call s).2) ∧
    (¬ Step.IsName name →
      let refused := ⟨some (.selection (.unknownStep name)), [], s⟩
      shown = refused ∧ stepped = refused ∧ ran = refused) ∧
    ((Conclusion.ofComplaint stepped.value).exitCode = 0 ↔
      (Conclusion.ofComplaint ran.value).exitCode = 0) ∧
    ∀ env args args' (i : Invocation),
      Invocation.ofArguments env args = .ok { i with task := .step name } →
      Invocation.ofArguments env args' = .ok { i with task := .run [name] report } →
      ((w.respond env args s).conclusion.exitCode = 0 ↔
        (w.respond env args' s).conclusion.exitCode = 0) := by
  intro shown stepped ran
  refine ⟨?jobs, ?known, fun hname => ?unknown, ?exit, ?program⟩
  case jobs =>
    by_cases hname : Step.IsName name
    · obtain ⟨step, hstep⟩ := hname
      exact .inr ⟨_, Job.ofName_of_ofName setup hstep, Job.select_singleton setup hstep⟩
    · have hbefore : ∀ n ∈ ([] : List String), Step.IsName n := by simp
      exact .inl ⟨Job.ofName_of_not_isName setup hname,
        Job.select_of_unknown setup hbefore hname []⟩
  case known =>
    intro job hjob
    obtain ⟨step, hstep, rfl⟩ := Job.exists_of_ofName hjob
    have hne := Job.isEmpty_command_ofStep setup step
    obtain ⟨hcalls, hstate, -⟩ := w.performStep_of_ofName setup s hjob hne
    obtain ⟨hcalls', hstate', -⟩ :=
      w.performRun_of_select setup s (Job.select_singleton setup hstep) hne report
    have hshown : shown = _ := performPreview_of_ofName setup s hjob
    rw [Command.display, Text.join_eq_intercalate] at hshown
    exact ⟨hshown, hcalls, hcalls', hstate, hstate'⟩
  case unknown =>
    exact ⟨w.performIn_of_not_isName setup s hname rfl, w.performIn_of_not_isName setup s hname rfl,
      w.performIn_of_not_isName setup s hname rfl⟩
  case exit =>
    rw [Conclusion.exitCode_eq_zero_iff, Conclusion.exitCode_eq_zero_iff]
    exact w.value_performIn_step_eq_none_iff setup s name report
  case program =>
    intro env args args' i hi hi'
    have hlist : Task.step name ≠ .list := by simp
    have hlist' : Task.run [name] report ≠ .list := by simp
    rw [w.exitCode_respond_eq_zero_iff s hi, w.exitCode_respond_eq_zero_iff s hi',
      w.value_perform_eq_none_iff s hlist, w.value_perform_eq_none_iff s hlist']
    -- The filter and the setup are the same for both, since neither looks at the task.
    exact and_congr_right fun _ => exists_congr fun setup =>
      and_congr_right fun _ => w.value_performIn_step_eq_none_iff setup s name report

/-- A simulation by its name with a blank, whose program writes the marker: the step and the
selection of it make the call that the preview tells, and both end with exit code 1; the whole
program succeeds by neither. -/
theorem one_step_agrees_on_marker :
    let w := sample Verdict.markerBytes
    let call := (Job.ofStep (Setup.sample true) (.simulate .fsm)).call
    let shown := w.performIn (Setup.sample true) (.preview " sim:fsm") ()
    let stepped := w.performIn (Setup.sample true) (.step " sim:fsm") ()
    let ran := w.performIn (Setup.sample true) (.run [" sim:fsm"] true) ()
    let exitCode (args : List String) := (w.respond (.sample none) args ()).conclusion.exitCode
    shown.trace = [.printed (" ".intercalate call.command.tokens ++ "\n")] ∧
      stepped.trace.calls = [call] ∧ ran.trace.calls = [call] ∧
      (Conclusion.ofComplaint stepped.value).exitCode = 1 ∧
      (Conclusion.ofComplaint ran.value).exitCode = 1 ∧
      exitCode ["--docker", "step", " sim:fsm"] = 1 ∧
      exitCode ["--docker", "run", "--report", "--only", " sim:fsm"] ≠ 0 := by
  intro w call shown stepped ran exitCode
  obtain ⟨-, hknown, -, hexit, hprogram⟩ := one_step_agrees w (Setup.sample true) () " sim:fsm" true
  obtain ⟨hshown, hstepped, hran, -, -⟩ :=
    hknown (Job.ofStep (Setup.sample true) (.simulate .fsm)) (by decide)
  have hfailed : (Conclusion.ofComplaint stepped.value).exitCode = 1 := by decide
  have hnonzero : (Conclusion.ofComplaint ran.value).exitCode ≠ 0 :=
    mt hexit.mpr (by rw [hfailed]; decide)
  have hcomplaint : ran.value ≠ none := mt (Conclusion.exitCode_eq_zero_iff _).mpr hnonzero
  have hcode : exitCode ["--docker", "step", " sim:fsm"] = 1 := by decide
  have hagree : exitCode ["--docker", "step", " sim:fsm"] = 0 ↔
      exitCode ["--docker", "run", "--report", "--only", " sim:fsm"] = 0 :=
    hprogram (.sample none) _ _ ⟨false, false, true, ⟨"/proj/ci"⟩, none, .list⟩ (by decide)
      (by decide)
  exact ⟨congrArg Ran.trace hshown, hstepped, hran, hfailed,
    (Conclusion.exitCode_eq_one_iff _).mpr hcomplaint, hcode, mt hagree.mpr (by rw [hcode]; decide)⟩

end CommandLine.Workplace

end CiHarness
