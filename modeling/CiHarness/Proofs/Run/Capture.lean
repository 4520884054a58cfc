import CiHarness.Proofs.Run.Process
import CiHarness.Proofs.Run.Sequence

/-!
# Simulations whose output is kept

Whether the output of a job is kept is a field of its own beside the step, so a job may be a
simulation whose output goes past the harness. The main statement says what the verdict on such a
job is worth: the marker is found exactly if the output was kept, and an output that was not kept
passes whatever it says.
-/
namespace CiHarness

variable {σ : Type} {start : Call → σ → Except StartError Process × σ}

namespace Launcher

/-- The reports before a job are those of the jobs before it, and its own comes next. -/
theorem getElem?_runAll_append (l : Launcher σ) (stamp : Stamp) (before : List Job) (job : Job)
    (after : List Job) (s : σ) :
    (l.runAll stamp (before ++ job :: after) s).value.steps[before.length]? =
      some (l.reportJob job (before.foldl l.after s)).value := by
  have hsteps : (l.runAll stamp (before ++ job :: after) s).value.steps =
      (l.reportJobs (before ++ job :: after) s).value := rfl
  rw [hsteps, getElem?_reportJobs]
  simp [stateBefore]

/-- What a simulation comes to on a host when its process exits with zero. -/
theorem value_runJob_of_exited (clock : σ → Nat) {job : Job} {s s' : σ} {p : Process}
    (hsim : job.step.IsSimulation) (hne : job.command.isEmpty = false)
    (hstart : start job.call s = (.ok p, s')) (hexit : p.ending = .exited 0) :
    ((ofProcesses start clock).runJob job s).value =
      if job.capture = true ∧ Verdict.markerBytes <:+: p.written then
        .error (.contentFailed job.name (Text.Utf8.decode p.written))
      else .ok ⟨job.name, 0, if job.capture then some (Text.Utf8.decode p.written)
          else none, some .pass⟩ := by
  have hcode : p.ending.exitCode = 0 := p.ending.exitCode_eq_zero_iff.mpr hexit
  have hempty : ¬ Verdict.marker.toList <:+: [] := by decide
  rw [value_runJob, reply?_ofProcesses clock hne hstart]
  cases hcapture : job.capture with
  | true =>
    have hmarker := Verdict.isInfix_decode_marker_iff p.written
    simp [Job.result, Job.judgedText, hcode, hsim, hmarker]
  | false => simp [Job.result, Job.judgedText, hcode, hsim, hempty]

/-- **A simulation is judged by what was kept of its output.** When its process exits with zero, the
simulation fails by its content exactly if its output was kept and holds the marker, and it passes
otherwise: a job whose output is not kept passes with the marker in it. This is so for a job that is
run alone and for one that is reached by a run in the same state, whatever stands before and after
it. -/
theorem content_failed_iff_kept (clock : σ → Nat) {job : Job} {s s' : σ} {p : Process}
    (hsim : job.step.IsSimulation) (hne : job.command.isEmpty = false)
    (hstart : start job.call s = (.ok p, s')) (hexit : p.ending = .exited 0) :
    let l := ofProcesses start clock
    let kept := job.capture = true ∧ Verdict.markerBytes <:+: p.written
    ((∃ output, (l.runJob job s).value = .error (.contentFailed job.name output)) ↔ kept) ∧
    ((∃ outcome, (l.runJob job s).value = .ok outcome) ↔ ¬ kept) ∧
    ∀ (stamp : Stamp) (before after : List Job) (s₀ : σ), before.foldl l.after s₀ = s →
      ∃ r, (l.runAll stamp (before ++ job :: after) s₀).value.steps[before.length]? = some r ∧
        r.name = job.name ∧ (r.status = .contentFailed ↔ kept) ∧ (r.status = .passed ↔ ¬ kept) := by
  intro l kept
  have hvalue : (l.runJob job s).value =
      if kept then .error (.contentFailed job.name (Text.Utf8.decode p.written))
      else .ok ⟨job.name, 0, if job.capture then some (Text.Utf8.decode p.written)
          else none, some .pass⟩ :=
    value_runJob_of_exited clock hsim hne hstart hexit
  have hresult : ((∃ output, (l.runJob job s).value = .error (.contentFailed job.name output)) ↔
      kept) ∧
      ((∃ outcome, (l.runJob job s).value = .ok outcome) ↔ ¬ kept) := by
    rw [hvalue]
    by_cases hkept : kept <;> simp [hkept]
  refine ⟨hresult.1, hresult.2, ?_⟩
  rintro stamp before after s₀ rfl
  have hstatus : (l.reportJob job (before.foldl l.after s₀)).value.status =
      if kept then .contentFailed else .passed := by
    rw [reportJob, hvalue]
    by_cases hkept : kept <;> simp [hkept, Status.ofResult]
  refine ⟨_, getElem?_runAll_append l stamp before job after s₀, rfl, ?_⟩
  rw [hstatus]
  by_cases hkept : kept <;> simp [hkept]

/-- The marker of a simulation whose output is kept is found, in a run of which it is the second
job. -/
theorem content_failed_after_passed :
    ∃ r, ((ofProcesses (fun _ (n : Nat) => (.ok ⟨.exited 0, Verdict.markerBytes, []⟩, n + 1))
        id).runAll ⟨RunId.zero, Timestamp.epoch⟩
        [Job.ofStep (Setup.sample false) .fmt, Job.ofStep (Setup.sample false) (.simulate .fsm)]
          0).value.steps[1]? =
      some r ∧ r.status = .contentFailed := by
  let start : Call → Nat → Except StartError Process × Nat :=
    fun _ n => (.ok ⟨.exited 0, Verdict.markerBytes, []⟩, n + 1)
  have hstart : start (Job.ofStep (Setup.sample false) (.simulate .fsm)).call 1 =
      (.ok ⟨.exited 0, Verdict.markerBytes, []⟩, 2) := rfl
  have h := content_failed_iff_kept id ⟨.fsm, rfl⟩ (by decide) hstart rfl
  obtain ⟨r, hr, -, hfailed, -⟩ :=
    h.2.2 ⟨RunId.zero, Timestamp.epoch⟩ [Job.ofStep (Setup.sample false) .fmt] [] 0 (by decide)
  exact ⟨r, hr, hfailed.mpr ⟨rfl, List.infix_rfl⟩⟩

/-- A simulation whose output is not kept passes, alone and in a run, although its process writes
the marker. -/
theorem content_passed_unless_kept :
    ∃ job : Job, job.step.IsSimulation ∧ job.command.isEmpty = false ∧
      let l : Launcher Unit :=
        ofProcesses (fun _ s => (.ok ⟨.exited 0, Verdict.markerBytes, []⟩, s)) fun _ => 0
      Status.ofResult (l.runJob job ()).value = .passed ∧
      (l.runAll ⟨RunId.zero, Timestamp.epoch⟩ [job] ()).value.steps.map (·.status) = [.passed] := by
  refine ⟨⟨"sim:fsm", .simulate .fsm, ⟨["echo", "~~FAIL~~"]⟩, ⟨"/"⟩, false⟩, ⟨.fsm, rfl⟩, rfl, ?_⟩
  decide

end Launcher

end CiHarness
