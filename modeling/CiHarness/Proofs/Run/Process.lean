import CiHarness.Proofs.Run.Single
import CiHarness.Proofs.Step.Placement
import CiHarness.Proofs.Step.Setup

/-!
# Simulations as processes

A simulation on a host is a process: it exits or is killed, and before that it writes bytes of any
kind. The main statement is `simulate_verdict`: a simulation passes exactly if its process exits
with zero and the bytes of the marker do not stand among those it wrote, however ill-formed the
bytes around them are.
-/
namespace CiHarness

variable {σ : Type}

/-- Only an exit with zero counts as zero. -/
theorem Ending.exitCode_eq_zero_iff (e : Ending) : e.exitCode = 0 ↔ e = .exited 0 := by
  cases e with
  | exited code =>
    have hcode : code.toNat < 256 := code.toNat_lt
    rw [Ending.exitCode, ← Int32.toInt_inj, Int32.toInt_ofNat_of_lt (by omega)]
    simp [← UInt8.toNat_inj]
  | killed signal => simp [Ending.exitCode]

namespace Launcher

/-- The reply about a process that ran to its end; its bytes are read as text if they were kept. -/
theorem reply?_ofProcesses {start : Call → σ → Except StartError Process × σ} (clock : σ → Nat)
    {job : Job} {s s' : σ} {p : Process} (hne : job.command.isEmpty = false)
    (h : start job.call s = (.ok p, s')) :
    (ofProcesses start clock).reply? s job =
      some (.ok ⟨p.ending.exitCode,
        if job.capture then some (Text.Utf8.decode p.written) else none⟩) := by
  have hcall : job.call.command.isEmpty = false := hne
  have hcapture : job.call.capture = job.capture := rfl
  cases hc : job.capture <;>
    simp [reply?, hne, ofProcesses, hcall, h, Process.answer, hcapture, hc]

/-- A job whose process cannot be started comes to that failure. -/
theorem value_runJob_of_start_error {start : Call → σ → Except StartError Process × σ}
    (clock : σ → Nat) {job : Job} {s s' : σ} {e : StartError} (hne : job.command.isEmpty = false)
    (h : start job.call s = (.error e, s')) :
    ((ofProcesses start clock).runJob job s).value = .error (.notStarted job.name e) := by
  have hcall : job.call.command.isEmpty = false := hne
  simp [reply?, hne, ofProcesses, hcall, h, Job.result]

/-- What the simulation of a scenario results in on a host. -/
def simulated (start : Call → σ → Except StartError Process × σ) (clock : σ → Nat) (setup : Setup)
    (scenario : Scenario) (s : σ) : Except Failure Outcome :=
  ((ofProcesses start clock).runJob (Job.ofStep setup (.simulate scenario)) s).value

theorem simulated_eq {start : Call → σ → Except StartError Process × σ} (clock : σ → Nat)
    (setup : Setup) (scenario : Scenario) {s s' : σ} {p : Process}
    (h : start (Job.ofStep setup (.simulate scenario)).call s = (.ok p, s')) :
    simulated start clock setup scenario s =
      if p.ending ≠ .exited 0 then
        .error (.processFailed (Step.simulate scenario).name p.ending.exitCode)
      else if Verdict.markerBytes <:+: p.written then
        .error (.contentFailed (Step.simulate scenario).name (Text.Utf8.decode p.written))
      else
        .ok ⟨(Step.simulate scenario).name, 0, some (Text.Utf8.decode p.written), some .pass⟩ := by
  have hreply := reply?_ofProcesses clock (Job.isEmpty_command_ofStep setup _) h
  have hkept : (Job.ofStep setup (.simulate scenario)).capture = true := rfl
  have hstep : (Job.ofStep setup (.simulate scenario)).step.IsSimulation := ⟨scenario, rfl⟩
  have hname : (Job.ofStep setup (.simulate scenario)).name = (Step.simulate scenario).name := rfl
  rw [simulated, value_runJob, hreply]
  simp only [Job.result, hkept, hstep, hname, Job.judgedText, if_true, Option.getD_some, ne_eq,
    not_true_eq_false, if_false, Ending.exitCode_eq_zero_iff, Verdict.isInfix_decode_marker_iff]

/-- **A simulation is never judged wrongly, down to its bytes.** A process that does not exit with
zero has failed with its exit code, whatever it wrote; one that does exit with zero fails by its
content if the bytes of the marker stand in what it wrote, and passes if they do not. Decoding keeps
every marker and makes no new one, whatever bytes stand before, after or between those of a
marker. -/
theorem simulate_verdict {start : Call → σ → Except StartError Process × σ} (clock : σ → Nat)
    (setup : Setup) (scenario : Scenario) {s s' : σ} {p : Process}
    (h : start (Job.ofStep setup (.simulate scenario)).call s = (.ok p, s')) :
    (∀ code, p.ending = .exited code → code ≠ 0 → simulated start clock setup scenario s =
      .error (.processFailed (Step.simulate scenario).name (Int32.ofNat code.toNat))) ∧
    (∀ signal, p.ending = .killed signal → simulated start clock setup scenario s =
      .error (.processFailed (Step.simulate scenario).name (-1))) ∧
    ((∃ step output, simulated start clock setup scenario s = .error (.contentFailed step output)) ↔
      p.ending = .exited 0 ∧ Verdict.markerBytes <:+: p.written) ∧
    ((∃ outcome, simulated start clock setup scenario s = .ok outcome) ↔
      p.ending = .exited 0 ∧ ¬ Verdict.markerBytes <:+: p.written) ∧
    ∀ bs, Verdict.marker.toList <:+: (Text.Utf8.decode bs).toList ↔
      Verdict.markerBytes <:+: bs := by
  rw [simulated_eq clock setup scenario h]
  refine ⟨?exited, ?killed, ?failed, ?passed, Verdict.isInfix_decode_marker_iff⟩
  case exited =>
    intro code hcode hne
    rw [if_pos (by simpa [hcode] using hne), hcode, Ending.exitCode]
  case killed =>
    intro signal hsignal
    rw [if_pos (by simp [hsignal]), hsignal, Ending.exitCode]
  case failed =>
    by_cases hend : p.ending = .exited 0 <;> by_cases hmarker : Verdict.markerBytes <:+:
      p.written <;>
      simp [hend, hmarker]
  case passed =>
    by_cases hend : p.ending = .exited 0 <;> by_cases hmarker : Verdict.markerBytes <:+:
      p.written <;>
      simp [hend, hmarker]

/-- A marker between a character that is cut short and bytes that never begin one is still found. -/
theorem simulate_verdict_among_broken_bytes :
    ∃ step output,
      simulated
        (fun _ (s : Unit) =>
          (.ok ⟨.exited 0, [0xF0, 0x9F] ++ Verdict.markerBytes ++ [0xC0, 0xFF], []⟩, s))
        (fun _ => 0) (Setup.sample false) .fsm () = .error (.contentFailed step output) := by
  refine ((simulate_verdict (s := ()) _ _ _ rfl).2.2.1).mpr ⟨rfl, ?_⟩
  decide

end Launcher

end CiHarness
