import CiHarness.Proofs.Run.Process
import CiHarness.Proofs.Run.Printed
import CiHarness.Proofs.Text.Utf8

/-!
# Captured text

The text that is captured of a process is what it wrote. If it wrote the bytes of a text, then that
text is captured, and it is what a simulation that fails by its content fails with and prints. If it
wrote anything else, then its ASCII is still captured in its order, and the text that is captured
would be captured again from its own bytes. The main statement is `captured_text_faithful`.
-/
namespace CiHarness.Launcher

variable {σ : Type} {start : Call → σ → Except StartError Process × σ}

/-- The answer about a process whose output is captured. -/
theorem launch_ofProcesses_of_capture (clock : σ → Nat) {call : Call} {s s' : σ} {p : Process}
    (hne : call.command.isEmpty = false) (hcapture : call.capture = true)
    (hstart : start call s = (.ok p, s')) :
    (ofProcesses start clock).launch call s =
      (⟨.ok ⟨p.ending.exitCode, some (Text.Utf8.decode p.written)⟩, [], p.complained⟩, s') := by
  simp [ofProcesses, hne, hstart, Process.answer, hcapture]

/-- A captured process that exits with zero has the text of its bytes as its output. -/
theorem value_runCall_of_capture (clock : σ → Nat) (step : String) {call : Call} {s s' : σ}
    {p : Process} (hne : call.command.isEmpty = false) (hcapture : call.capture = true)
    (hstart : start call s = (.ok p, s'))
    (hexit : p.ending = .exited 0) :
    ((ofProcesses start clock).runCall step call s).value =
      .ok ⟨step, 0, some (Text.Utf8.decode p.written), none⟩ := by
  have hcode : p.ending.exitCode = 0 := p.ending.exitCode_eq_zero_iff.mpr hexit
  have hlaunch := launch_ofProcesses_of_capture clock hne hcapture hstart
  simp [runCall, hne, hlaunch, Output.isSuccess, hcode]

/-- **What is captured of a process is what it wrote.** A process that exits with zero has one
captured text, and if it wrote the bytes of a text, then this is the one. When its job fails by its
content, it fails with the captured text, and prints it with a new line and nothing else. Whatever
the process wrote, the ASCII characters of the captured text are its ASCII bytes, in their order;
and of a process that writes the bytes of the captured text, the same text is captured again. -/
theorem captured_text_faithful (clock : σ → Nat) (step : String) {call : Call} {s s' : σ}
    {p : Process} (hne : call.command.isEmpty = false) (hcapture : call.capture = true)
    (hstart : start call s = (.ok p, s'))
    (hexit : p.ending = .exited 0) :
    let l := ofProcesses start clock
    ∃ text : String, (l.runCall step call s).value = .ok ⟨step, 0, some text, none⟩ ∧
      (∀ written : String, p.written = Text.Utf8.encode written → text = written) ∧
      (∀ job : Job, job.call = call → ∀ name output,
        (l.runJob job s).value = .error (.contentFailed name output) →
          output = text ∧ (l.runJob job s).trace.printed = [text ++ "\n"]) ∧
      (text.toList.filter (·.toNat < 0x80)).map Char.toNat =
        (p.written.filter (· < 0x80)).map UInt8.toNat ∧
      ∀ (again : Call → σ → Except StartError Process × σ) (t t' : σ) (q : Process),
        again call t = (.ok q, t') →
        q.ending = .exited 0 → q.written = Text.Utf8.encode text →
        ((ofProcesses again clock).runCall step call t).value = .ok ⟨step, 0, some text, none⟩ := by
  intro l
  refine ⟨Text.Utf8.decode p.written, value_runCall_of_capture clock step hne hcapture hstart hexit,
    ?written, ?failed, Text.Utf8.filter_decode p.written, ?again⟩
  case written =>
    intro written hwritten
    rw [hwritten, Text.Utf8.decode_encode]
  case failed =>
    rintro job rfl name output hfailed
    obtain ⟨hprinted, hresult⟩ := printed_runJob_of_contentFailed hfailed
    rw [launch_ofProcesses_of_capture clock hne hcapture hstart, Except.ok.injEq, Output.mk.injEq,
      Option.some.injEq] at hresult
    obtain ⟨-, rfl⟩ := hresult
    exact ⟨rfl, hprinted⟩
  case again =>
    intro again t t' q hagain hexit' hwritten
    rw [value_runCall_of_capture clock step hne hcapture hagain hexit', hwritten,
      Text.Utf8.decode_encode]

/-- A simulation that writes the marker between characters of two and of four bytes fails with all
that it wrote, and prints it. -/
theorem captured_text_faithful_of_marker :
    let job := Job.ofStep (Setup.sample false) (.simulate .fsm)
    let start : Call → Unit → Except StartError Process × Unit :=
      fun _ s => (.ok ⟨.exited 0, Text.Utf8.encode "é~~FAIL~~𝄞", []⟩, s)
    let l := ofProcesses start fun _ => 0
    ∃ output, (l.runJob job ()).value = .error (.contentFailed "sim:fsm" output) ∧
      output = "é~~FAIL~~𝄞" ∧
      (l.runJob job ()).trace.printed = ["é~~FAIL~~𝄞\n"] := by
  intro job start l
  have hne : job.command.isEmpty = false := Job.isEmpty_command_ofStep _ _
  have hstart : start job.call () = (.ok ⟨.exited 0, Text.Utf8.encode "é~~FAIL~~𝄞", []⟩, ()) := rfl
  obtain ⟨text, -, hwritten, hfailed, -⟩ :=
    captured_text_faithful (fun _ => 0) job.name hne rfl hstart rfl
  obtain rfl : text = "é~~FAIL~~𝄞" := hwritten _ rfl
  have hvalue : (l.runJob job ()).value =
      .error (.contentFailed "sim:fsm" (Text.Utf8.decode (Text.Utf8.encode "é~~FAIL~~𝄞"))) := by
    rw [value_runJob, reply?_ofProcesses _ hne hstart]
    decide
  obtain ⟨houtput, hprinted⟩ := hfailed job rfl _ _ hvalue
  exact ⟨_, hvalue, houtput, hprinted⟩

end CiHarness.Launcher
