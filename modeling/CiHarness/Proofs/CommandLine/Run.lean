import CiHarness.CommandLine.Performance
import CiHarness.Proofs.CommandLine.Summary
import CiHarness.Proofs.Project.Layout
import CiHarness.Proofs.Run.Calls
import CiHarness.Proofs.Run.Process

/-!
# What is told of a run

A run is told of in five ways: by the exit code, the line of its status, the marks of its steps, the
counts and the report as JSON. Each is made by a function of its own, and all of them follow from
the statuses of the steps. The main statement is `performRun_truthful`.
-/
namespace CiHarness

variable {σ : Type}

namespace RunReport

/-- The number of steps whose status is that they passed. -/
theorem passedCount_eq (r : RunReport) :
    r.passedCount = r.steps.countP fun step => step.status = .passed :=
  List.countP_congr fun step _ => by simp [StepReport.passed_iff]

/-- A count of all steps is a count without a failed one. -/
theorem passedCount_eq_length_iff (r : RunReport) :
    r.passedCount = r.steps.length ↔ ∀ step ∈ r.steps, step.status = .passed := by
  simp [passedCount, List.countP_eq_length, StepReport.passed_iff]

end RunReport

namespace Launcher

/-- Every step is reported by its name, in its turn. -/
theorem names_runAll (l : Launcher σ) (stamp : Stamp) (jobs : List Job) (s : σ) :
    (l.runAll stamp jobs s).value.steps.map (·.name) = jobs.map (·.name) :=
  map_reportJobs (fun _ _ => rfl) jobs s

/-- The success of a run is a matter of its counts. -/
theorem success_runAll_iff_passedCount (l : Launcher σ) (stamp : Stamp) (jobs : List Job) (s : σ) :
    (l.runAll stamp jobs s).value.success = true ↔
      (l.runAll stamp jobs s).value.passedCount = (l.runAll stamp jobs s).value.steps.length := by
  rw [success_runAll_iff, RunReport.passedCount_eq_length_iff]

end Launcher

/-- A step is named within one line. -/
theorem Step.isLine_name (step : Step) : Text.IsLine step.name := by
  have hall : ∀ step ∈ Step.all, Text.IsLine step.name := by decide
  exact hall step step.mem_all

namespace CommandLine

namespace Conclusion

theorem exitCode_eq_zero_iff (complaint : Option Complaint) :
    (ofComplaint complaint).exitCode = 0 ↔ complaint = none := by
  cases complaint <;> simp [ofComplaint, exitCode]

theorem exitCode_eq_one_iff (complaint : Option Complaint) :
    (ofComplaint complaint).exitCode = 1 ↔ complaint ≠ none := by
  cases complaint <;> simp [ofComplaint, exitCode]

end Conclusion

theorem Complaint.text_steps (count : Nat) :
    (steps count).text = "Error: " ++ toString count ++ " step(s) failed" := by
  simp [text, headline, listed, causes, String.append_assoc]

/-- The complaint about a run names the number of steps that did not pass. -/
theorem Complaint.text_runAll (l : Launcher σ) (stamp : Stamp) (jobs : List Job) (s : σ) :
    let r := (l.runAll stamp jobs s).value
    (if r.success then none else some (Complaint.steps r.failedCount)).map Complaint.text =
      if r.passedCount < r.steps.length then
        some ("Error: " ++ toString (r.steps.length - r.passedCount) ++ " step(s) failed")
      else none := by
  intro r
  have hsum : r.passedCount + r.failedCount = r.steps.length := r.passedCount_add_failedCount
  have hsuccess : r.success = true ↔ r.passedCount = r.steps.length :=
    l.success_runAll_iff_passedCount stamp jobs s
  by_cases hall : r.passedCount = r.steps.length
  · simp [hsuccess, hall]
  · have hfailed : r.steps.length - r.passedCount = r.failedCount := by omega
    have hsome : r.passedCount < r.steps.length := by omega
    rw [if_neg (mt hsuccess.mp hall), if_pos hsome, hfailed, Option.map_some, Complaint.text_steps]

namespace Summary

/-- The lines of a summary as the statuses of the steps alone demand them. -/
def dueLines (r : RunReport) : List String :=
  let count := r.steps.countP fun step => step.status = .passed
  ["", "Run ID: " ++ r.runId.toText,
    if count = r.steps.length then "Status: ✓ PASSED" else "Status: ✗ FAILED",
    "Duration: " ++ toString r.durationMs.toNat ++ "ms", ""] ++
  r.steps.map (fun step =>
    "  " ++ (if step.status = .passed then "✓" else "✗") ++ " " ++ step.name ++
      " (" ++ toString step.durationMs.toNat ++ "ms)") ++
  ["", "Summary: " ++ toString count ++ "/" ++ toString r.steps.length ++ " steps passed"]

/-- The lines are the ones that are due if the success that is reported is that of the steps. -/
theorem lines_eq_dueLines {r : RunReport} (h : r.success = true ↔ r.passedCount = r.steps.length) :
    lines r = dueLines r := by
  have hstatus : statusLine r =
      if r.passedCount = r.steps.length then "Status: ✓ PASSED" else "Status: ✗ FAILED" := by
    simp only [← h]
    rw [statusLine]
    cases r.success <;> rfl
  have hsteps : r.steps.map stepLine = r.steps.map fun step =>
      "  " ++ (if step.status = .passed then "✓" else "✗") ++ " " ++ step.name ++
        " (" ++ toString step.durationMs.toNat ++ "ms)" :=
    List.map_congr_left fun step _ => by simp only [stepLine, mark, StepReport.passed_iff]
  rw [lines, dueLines, hstatus, hsteps, countLine, r.passedCount_eq]

end Summary

namespace Workplace

section

variable (w : Workplace σ) (setup : Setup) (report : Bool) (s : σ)

/-- With names of steps only, the chosen steps are run and a summary follows. -/
theorem performRun_of_isName {only : List String} (h : ∀ name ∈ only, Step.IsName name) :
    let run := w.launcher.runAll w.stamp
      ((Step.all.filter (Step.isChosen only)).map (Job.ofStep setup)) s
    w.performRun setup only report s =
      ⟨if run.value.success then none else some (.steps run.value.failedCount),
        run.trace ++ [.printed (if report then Summary.json run.value else Summary.text run.value)],
        run.state⟩ := by
  simp only [performRun, Job.select_of_isName setup h]

/-- By a name of no step, nothing is run. -/
theorem performRun_of_unknown {before : List String} (hbefore : ∀ name ∈ before, Step.IsName name)
    {name : String} (hname : ¬ Step.IsName name) (after : List String) :
    w.performRun setup (before ++ name :: after) report s =
      ⟨some (.selection (.unknownStep name)), [], s⟩ := by
  simp only [performRun, Job.select_of_unknown setup hbefore hname after]

/-- There is nothing to complain about exactly if all names are known and all chosen steps
passed. -/
theorem value_performRun_eq_none_iff (only : List String) :
    (w.performRun setup only report s).value = none ↔
      (∀ name ∈ only, Step.IsName name) ∧
        ∀ step ∈ (w.launcher.runAll w.stamp
          ((Step.all.filter (Step.isChosen only)).map (Job.ofStep setup)) s).value.steps,
          step.status = .passed := by
  by_cases hknown : ∀ name ∈ only, Step.IsName name
  · rw [performRun_of_isName w setup report s hknown, ← Launcher.success_runAll_iff]
    simpa using fun _ => hknown
  · obtain ⟨before, name, after, rfl, hbefore, hname⟩ :=
      Step.exists_first_unknown (by simpa using hknown)
    rw [performRun_of_unknown w setup report s hbefore hname]
    simp only [reduceCtorEq, hknown, false_and]

end

/-- **A run is told of truthfully.** The exit code is 0 exactly if every name is known and every
chosen step passed, and 1 otherwise. With names that are known, the chosen steps are reported in
catalogue order, there is at least one of them, and each was launched. Of the run comes what is
printed last: the lines that are due by the statuses of the steps, or a text that is read as an
object in which no name stands twice and the same steps can be read. The complaint in either form is
about the steps that did not pass, and there is none if all did. -/
theorem performRun_truthful (w : Workplace σ) (setup : Setup) (only : List String) (report : Bool)
    (s : σ) :
    let ran := w.performRun setup only report s
    let chosen := Step.all.filter (Step.isChosen only)
    let run := w.launcher.runAll w.stamp (chosen.map (Job.ofStep setup)) s
    let n := run.value.steps.length
    let p := run.value.steps.countP fun step => step.status = .passed
    let good := (∀ name ∈ only, Step.IsName name) ∧ ∀ step ∈ run.value.steps, step.status = .passed
    ((Conclusion.ofComplaint ran.value).exitCode = 0 ↔ good) ∧
    ((Conclusion.ofComplaint ran.value).exitCode = 1 ↔ ¬ good) ∧
    ((∀ name ∈ only, Step.IsName name) →
      run.value.steps.map (·.name) = chosen.map Step.name ∧ 0 < n ∧ ran.trace.calls.length = n ∧
      (∃ summary, ran.trace = run.trace ++ [.printed summary] ∧
        (report = false → Text.split '\n' summary = Summary.dueLines run.value ++ [""]) ∧
        (report = true → ∃ members items, summary = (Json.object members).pretty ++ "\n" ∧
          Json.ofText? summary = some (.object members) ∧ (Json.object members).Unambiguous ∧
          Json.member? "success" members = some (.bool (p = n)) ∧
          Json.member? "steps" members = some (.array items) ∧
          items.map StepReport.ofJson? = run.value.steps.map some)) ∧
      ran.value.map Complaint.text =
        if p < n then some ("Error: " ++ toString (n - p) ++ " step(s) failed") else none) := by
  intro ran chosen run n p good
  have hgood : ran.value = none ↔ good := w.value_performRun_eq_none_iff setup report s only
  refine ⟨by rw [Conclusion.exitCode_eq_zero_iff, hgood],
    by rw [Conclusion.exitCode_eq_one_iff, ne_eq, hgood], ?_⟩
  intro hknown
  have hran : ran = ⟨if run.value.success then none else some (.steps run.value.failedCount),
      run.trace ++ [.printed (if report then Summary.json run.value else Summary.text run.value)],
      run.state⟩ :=
    w.performRun_of_isName setup report s hknown
  have hp : p = run.value.passedCount := run.value.passedCount_eq.symm
  have hsuccess : run.value.success = true ↔ run.value.passedCount = n :=
    w.launcher.success_runAll_iff_passedCount w.stamp _ s
  have hnames : run.value.steps.map (·.name) = chosen.map Step.name := by
    rw [Launcher.names_runAll, List.map_map]
    rfl
  have hn : n = chosen.length := by simpa using congrArg List.length hnames
  refine ⟨hnames, ?ran, ?called, ⟨_, by rw [hran], ?lines, ?json⟩, ?complaint⟩
  case ran =>
    rw [hn]
    exact List.length_pos_iff.mpr (Step.filter_isChosen_ne_nil hknown)
  case called =>
    have hcalls : run.trace.calls = chosen.map fun step => (Job.ofStep setup step).call := by
      rw [Launcher.calls_runAll, Job.launches_map_ofStep]
    rw [hran, hn]
    simp [hcalls]
  case lines =>
    rintro rfl
    have hlines : ∀ step ∈ run.value.steps, Text.IsLine step.name := by
      intro step hstep
      have hname : step.name ∈ chosen.map Step.name := hnames ▸ List.mem_map_of_mem hstep
      obtain ⟨s, -, hs⟩ := List.mem_map.mp hname
      exact hs ▸ s.isLine_name
    rw [if_neg Bool.false_ne_true, Summary.split_text hlines, Summary.lines_eq_dueLines hsuccess]
  case json =>
    rintro rfl
    obtain ⟨members, items, hjson, hmember, hitems⟩ := Summary.members_toJson run.value
    have hread := Summary.ofText?_json run.value
    have hunambiguous := run.value.unambiguous_toJson
    rw [hjson] at hread hunambiguous
    refine ⟨members, items, by rw [if_pos rfl, Summary.json, hjson], hread, hunambiguous, ?_,
      hitems⟩
    rw [hmember, hp]
    simp [← hsuccess]
  case complaint =>
    rw [hran, hp]
    exact Complaint.text_runAll w.launcher w.stamp _ s

/-- A project at `/proj` where every program writes the same and exits with zero. -/
def sample (written : List UInt8) : Workplace Unit where
  files := FileView.ofProject ⟨"/proj/ci"⟩ ⟨"/proj/Cargo.toml"⟩
  identity := ⟨1000, 1000⟩
  launcher := Launcher.ofProcesses (fun _ s => (.ok ⟨.exited 0, written, []⟩, s)) fun _ => 0
  stamp := ⟨RunId.zero, Timestamp.epoch⟩

/-- Two steps that both write the marker: the one that is judged by its text fails, and half of the
steps passed. The printed lines say so, and so does the printed report. -/
theorem performRun_of_marker :
    let ran (report : Bool) :=
      (sample Verdict.markerBytes).performRun (Setup.sample false) ["sim:fsm", " fmt"] report ()
    (∀ report, (Conclusion.ofComplaint (ran report).value).exitCode = 1 ∧
      (ran report).value.map Complaint.text = some "Error: 1 step(s) failed") ∧
    (∃ summary, (ran false).trace.getLast? = some (.printed summary) ∧
      Text.split '\n' summary =
        ["", "Run ID: 00000000-0000-0000-0000-000000000000", "Status: ✗ FAILED", "Duration: 0ms",
          "", "  ✓ fmt (0ms)", "  ✗ sim:fsm (0ms)", "", "Summary: 1/2 steps passed", ""]) ∧
    ∃ summary members items, (ran true).trace.getLast? = some (.printed summary) ∧
      Json.ofText? summary = some (.object members) ∧
      Json.member? "success" members = some (.bool false) ∧
      Json.member? "steps" members = some (.array items) ∧
      items.map (fun item => (StepReport.ofJson? item).map fun step => (step.name, step.status)) =
        [some ("fmt", .passed), some ("sim:fsm", .contentFailed)] := by
  intro ran
  have htold (report : Bool) :=
    performRun_truthful (sample Verdict.markerBytes) (Setup.sample false) ["sim:fsm", " fmt"]
      report ()
  have hknown : ∀ name ∈ ["sim:fsm", " fmt"], Step.IsName name := by decide
  refine ⟨fun report => ?complaint, ?lines, ?json⟩
  case complaint =>
    obtain ⟨-, -, -, -, hcomplaint⟩ := (htold report).2.2 hknown
    exact ⟨(htold report).2.1.mpr (by decide), hcomplaint.trans (by decide)⟩
  case lines =>
    obtain ⟨-, -, -, ⟨summary, htrace, hlines, -⟩, -⟩ := (htold false).2.2 hknown
    refine ⟨summary, ?_, (hlines rfl).trans (by decide)⟩
    rw [htrace, List.getLast?_concat]
  case json =>
    obtain ⟨-, -, -, ⟨summary, htrace, -, hjson⟩, -⟩ := (htold true).2.2 hknown
    obtain ⟨members, items, -, hread, -, hsuccess, hsteps, hitems⟩ := hjson rfl
    refine ⟨summary, members, items, ?_, hread, hsuccess.trans ?_, hsteps, ?_⟩
    · rw [htrace, List.getLast?_concat]
    · exact congrArg (fun b => some (Json.bool b)) (by decide)
    · have hread := congrArg (List.map (Option.map fun step => (step.name, step.status))) hitems
      rw [List.map_map] at hread
      exact hread.trans (by decide)

end Workplace

end CommandLine

end CiHarness
