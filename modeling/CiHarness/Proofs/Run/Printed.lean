import CiHarness.Proofs.Run.Sequence

/-!
# What a run shows

But for its log, a run shows one episode after another, and an episode follows from a job and the
answer to it: the call, what the program complains and writes past the harness, and what the harness
prints about it. The harness prints nothing about a job but the text of a simulation that fails by
its content, in full and with a new line after it.
-/
namespace CiHarness

variable {σ : Type}

/-- What a program that has ended has sent past the harness. -/
def Answer.bypass (a : Answer) : Trace :=
  (if a.complained.isEmpty then [] else [.complained a.complained]) ++
    if a.passedThrough.isEmpty then [] else [.passedThrough a.passedThrough]

/-- The text that was kept of what a program wrote; none counts as empty. -/
def keptText : Except StartError Output → String
  | .ok output => Job.judgedText output
  | .error _ => ""

namespace Job

/-- What is printed about a job: all that was kept of its text, if it fails by its content. -/
def transcript (job : Job) (answer : Except StartError Output) : List String :=
  if job.due answer = .contentFailed then [keptText answer ++ "\n"] else []

/-- What is seen of a job besides the log. -/
def episode (job : Job) (answer : Answer) : Trace :=
  if job.command.isEmpty then []
  else .called job.call :: (answer.bypass ++ (job.transcript answer.result).map .printed)

end Job

/-! ## Episodes -/

namespace Answer

@[simp] theorem unlogged_bypass (a : Answer) : a.bypass.unlogged = a.bypass := by
  rw [bypass]
  split <;> split <;> rfl

@[simp] theorem printed_bypass (a : Answer) : a.bypass.printed = [] := by
  rw [bypass]
  split <;> split <;> rfl

@[simp] theorem stdout_bypass (a : Answer) : a.bypass.stdout = a.passedThrough := by
  rw [bypass]
  cases a.complained <;> cases a.passedThrough <;> simp [Trace.stdout]

end Answer

namespace Job

/-- Nothing is printed about a job that has nothing to launch. -/
theorem transcript_of_isEmpty {job : Job} (h : job.command.isEmpty = true)
    (answer : Except StartError Output) :
    job.transcript answer = [] := by
  have htokens : job.command.tokens = [] := job.isEmpty_command_iff.mp h
  simp [transcript, due, htokens]

/-- The remarks on a result print the transcript. -/
theorem unlogged_remarks_result {job : Job} (h : job.command.isEmpty = false)
    (answer : Except StartError Output) :
    (remarks (job.result (some answer))).unlogged = (job.transcript answer).map .printed := by
  have htokens : job.command.tokens ≠ [] :=
    fun hnil => by simp [job.isEmpty_command_iff.mpr hnil] at h
  cases answer with
  | error e => simp [result, remarks, transcript, due, htokens]
  | ok output =>
    by_cases hexit : output.exitCode = 0 <;> by_cases hsim : job.step.IsSimulation <;>
      by_cases hmarker : Verdict.marker.toList <:+: (output.stdout.getD "").toList <;>
      simp [result, remarks, transcript, due, keptText, judgedText, htokens, hexit, hsim, hmarker]

/-- A job fails by its content only by a text that was kept, and by all of it. -/
theorem eq_of_result_eq_contentFailed {job : Job} {answer : Except StartError Output}
    {step output : String} (h : job.result (some answer) = .error (.contentFailed step output)) :
    step = job.name ∧ answer = .ok ⟨0, some output⟩ := by
  have hempty : ¬ Verdict.marker.toList <:+: "".toList := by decide
  cases result_eq_iff.mp h with
  | contentFailed o hexit hsim hmarker =>
    obtain ⟨exitCode, stdout⟩ := o
    obtain rfl : exitCode = 0 := hexit
    cases stdout with
    | none => exact absurd hmarker hempty
    | some text => exact ⟨rfl, rfl⟩

@[simp] theorem printed_episode (job : Job) (answer : Answer) :
    (job.episode answer).printed = job.transcript answer.result := by
  rw [episode]
  split
  · next h => rw [transcript_of_isEmpty h, Trace.printed_nil]
  · simp

/-- On standard output stand first the bytes that went past the harness and then the transcript. -/
theorem stdout_episode (job : Job) (answer : Answer) :
    (job.episode answer).stdout =
      if job.command.isEmpty then []
      else answer.passedThrough ++ (job.transcript answer.result).flatMap Text.Utf8.encode := by
  rw [episode]
  split <;> simp

end Job

/-! ## One episode after another -/

namespace Launcher

@[simp] theorem unlogged_launchTrace (step : String) (call : Call) (answer : Answer) :
    (launchTrace step call answer).unlogged = .called call :: answer.bypass := by
  have htrace : launchTrace step call answer =
      .logged (.launching step call) :: .called call :: answer.bypass := by
    simp [launchTrace, Answer.bypass]
  simp [htrace]

theorem unlogged_runJob (l : Launcher σ) (job : Job) (s : σ) :
    (l.runJob job s).trace.unlogged = job.episode (l.launch job.call s).1 := by
  rw [runJob_eq, Job.episode]
  split
  · rfl
  · next h => simp [Job.unlogged_remarks_result (Bool.not_eq_true _ ▸ h)]

theorem printed_runJob (l : Launcher σ) (job : Job) (s : σ) :
    (l.runJob job s).trace.printed = job.transcript (l.launch job.call s).1.result := by
  rw [← Trace.printed_unlogged, unlogged_runJob, Job.printed_episode]

theorem due_of_value_runJob (l : Launcher σ) (job : Job) (s : σ) :
    job.due (l.launch job.call s).1.result = Status.ofResult (l.runJob job s).value := by
  rw [value_runJob, Job.ofResult_result]

/-- A failure by content prints its text, which is all that the launcher kept. -/
theorem printed_runJob_of_contentFailed {l : Launcher σ} {job : Job} {s : σ} {step output : String}
    (h : (l.runJob job s).value = .error (.contentFailed step output)) :
    (l.runJob job s).trace.printed = [output ++ "\n"] ∧
      (l.launch job.call s).1.result = .ok ⟨0, some output⟩ := by
  have hdue : job.due (l.launch job.call s).1.result = .contentFailed := by
    rw [due_of_value_runJob, h, Status.ofResult]
  have hanswer : (l.launch job.call s).1.result = .ok ⟨0, some output⟩ := by
    rw [value_runJob, reply?] at h
    split at h
    · simp [Job.result] at h
    · exact (Job.eq_of_result_eq_contentFailed h).2
  refine ⟨?_, hanswer⟩
  rw [printed_runJob, Job.transcript, if_pos hdue, hanswer]
  rfl

/-- Nothing else prints anything. -/
theorem printed_runJob_eq_nil {l : Launcher σ} {job : Job} {s : σ}
    (h : ∀ step output, (l.runJob job s).value ≠ .error (.contentFailed step output)) :
    (l.runJob job s).trace.printed = [] := by
  rw [printed_runJob, Job.transcript, if_neg]
  intro hdue
  rw [due_of_value_runJob, Status.ofResult_eq_contentFailed_iff] at hdue
  obtain ⟨step, output, hvalue⟩ := hdue
  exact h step output hvalue

/-- Jobs that run one after another, each with what its launcher answers when its turn comes. -/
def answers (l : Launcher σ) : List Job → σ → List (Job × Answer)
  | [], _ => []
  | job :: rest, s => (job, (l.launch job.call s).1) :: l.answers rest (l.after s job)

theorem status_reportJobs (l : Launcher σ) (jobs : List Job) (s : σ) :
    (l.reportJobs jobs s).value.map (·.status) =
      (l.answers jobs s).map fun (job, answer) => job.due answer.result := by
  induction jobs generalizing s with
  | nil => rfl
  | cons job rest ih => simp [reportJobs, answers, value_reportJob, ih]

theorem unlogged_reportJobs (l : Launcher σ) (jobs : List Job) (s : σ) :
    (l.reportJobs jobs s).trace.unlogged =
      (l.answers jobs s).flatMap fun (job, answer) => job.episode answer := by
  induction jobs generalizing s with
  | nil => rfl
  | cons job rest ih => simp [reportJobs, reportJob, answers, unlogged_runJob, ih]

theorem mem_of_mem_answers {l : Launcher σ} {jobs : List Job} {s : σ} {x : Job × Answer}
    (h : x ∈ l.answers jobs s) : x.1 ∈ jobs := by
  induction jobs generalizing s with
  | nil => simp [answers] at h
  | cons job rest ih =>
    rcases List.mem_cons.mp h with rfl | h
    · exact List.mem_cons_self
    · exact List.mem_cons_of_mem _ (ih h)

/-- But for its log, a run shows the episodes of its jobs in their order. -/
theorem unlogged_runAll (l : Launcher σ) (stamp : Stamp) (jobs : List Job) (s : σ) :
    (l.runAll stamp jobs s).trace.unlogged =
      (l.answers jobs s).flatMap fun (job, answer) => job.episode answer := by
  simp [runAll, unlogged_reportJobs]

/-- What a run prints are the transcripts of its jobs in their order. -/
theorem printed_runAll (l : Launcher σ) (stamp : Stamp) (jobs : List Job) (s : σ) :
    (l.runAll stamp jobs s).trace.printed =
      (l.answers jobs s).flatMap fun (job, answer) => job.transcript answer.result := by
  rw [← Trace.printed_unlogged, unlogged_runAll, Trace.printed_flatMap]
  simp

/-- A run of jobs with a token writes to standard output what goes past the harness and the
transcripts, job by job. -/
theorem stdout_runAll (l : Launcher σ) (stamp : Stamp) {jobs : List Job} (s : σ)
    (h : ∀ job ∈ jobs, job.command.isEmpty = false) :
    (l.runAll stamp jobs s).trace.stdout = (l.answers jobs s).flatMap fun (job, answer) =>
      answer.passedThrough ++ (job.transcript answer.result).flatMap Text.Utf8.encode := by
  rw [← Trace.stdout_unlogged, unlogged_runAll, Trace.stdout_flatMap]
  refine List.flatMap_congr fun x hx => ?_
  rw [Job.stdout_episode, h x.1 (mem_of_mem_answers hx), if_neg Bool.false_ne_true]

end Launcher

end CiHarness
