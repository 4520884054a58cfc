import CiHarness.Proofs.Run.Sequence
import CiHarness.Proofs.Step.Selection
import CiHarness.Proofs.Step.Setup

/-!
# The calls of a run

Which programs a run asks for is settled before it begins. Whatever a launcher answers, each job
with a token is launched once, in its turn, and nothing else is. This is said twice, of the calls in
the trace of a run and of the calls that the launcher itself is given, which a recording launcher
writes into its own state. The main statement is `runAll_calls`.
-/
namespace CiHarness

variable {σ : Type}

/-- The calls that jobs make in their order. -/
def Job.launches (jobs : List Job) : List Call :=
  (jobs.filter fun job => !job.command.isEmpty).map Job.call

namespace Job

@[simp] theorem launches_nil : launches [] = [] := rfl

theorem launches_cons (job : Job) (jobs : List Job) :
    launches (job :: jobs) = job.calls ++ launches jobs := by
  cases h : job.command.isEmpty <;> simp [launches, calls, h]

theorem isEmpty_of_mem_launches {jobs : List Job} {call : Call} (h : call ∈ launches jobs) :
    call.command.isEmpty = false := by
  obtain ⟨job, hjob, rfl⟩ := List.mem_map.mp h
  simpa [call] using (List.mem_filter.mp hjob).2

/-- Nothing is passed over among jobs of the catalogue. -/
theorem launches_map_ofStep (setup : Setup) (steps : List Step) :
    launches (steps.map (ofStep setup)) = steps.map fun step => (ofStep setup step).call := by
  have hall : ∀ job ∈ steps.map (ofStep setup), (!job.command.isEmpty) = true := by
    intro job hjob
    rw [isEmpty_command_of_mem hjob, Bool.not_false]
  rw [launches, List.filter_eq_self.mpr hall, List.map_map]
  rfl

end Job

namespace Launcher

theorem calls_reportJobs (l : Launcher σ) (jobs : List Job) (s : σ) :
    (l.reportJobs jobs s).trace.calls = Job.launches jobs := by
  induction jobs generalizing s with
  | nil => rfl
  | cons job rest ih => simp [reportJobs, reportJob, Job.launches_cons, ih]

theorem calls_runAll (l : Launcher σ) (stamp : Stamp) (jobs : List Job) (s : σ) :
    (l.runAll stamp jobs s).trace.calls = Job.launches jobs := by
  simp [runAll, calls_reportJobs]

/-- A launcher that keeps a list of the calls it is given and otherwise answers as another one
does. -/
def recording (l : Launcher σ) : Launcher (σ × List Call) where
  launch call s :=
    let (answer, next) := l.launch call s.1
    (answer, (next, s.2 ++ [call]))
  clock s := l.clock s.1

theorem after_recording (l : Launcher σ) (s : σ) (seen : List Call) (job : Job) :
    l.recording.after (s, seen) job = (l.after s job, seen ++ job.calls) := by
  cases h : job.command.isEmpty <;> simp [after, Job.calls, recording, h]

/-- One job after another, a recording launcher is given the calls of the jobs. -/
theorem foldl_after_recording (l : Launcher σ) (jobs : List Job) (s : σ) (seen : List Call) :
    jobs.foldl l.recording.after (s, seen) = (jobs.foldl l.after s, seen ++ Job.launches jobs) := by
  induction jobs generalizing s seen with
  | nil => simp
  | cons job rest ih =>
    rw [List.foldl_cons, after_recording, ih, Job.launches_cons, List.append_assoc, List.foldl_cons]

/-- **The calls of a run follow from its jobs alone.** They are the calls of the jobs with a token,
in the order of the jobs and each once: in the trace, and in what a recording launcher has been
given when the run is over. So no call without a token is ever made, and any two launchers are given
the same calls, however differently they answer. The calls of a selection are those of the chosen
steps in catalogue order, where no step stands twice. -/
theorem runAll_calls (l : Launcher σ) (stamp : Stamp) (jobs : List Job) (s : σ) :
    (l.runAll stamp jobs s).trace.calls = Job.launches jobs ∧
    (∀ seen, (l.recording.runAll stamp jobs (s, seen)).state =
      ((l.runAll stamp jobs s).state, seen ++ Job.launches jobs)) ∧
    (∀ call ∈ (l.runAll stamp jobs s).trace.calls, call.command.isEmpty = false) ∧
    (∀ (τ : Type) (l' : Launcher τ) (stamp' : Stamp) (s' : τ),
      (l'.runAll stamp' jobs s').trace.calls = (l.runAll stamp jobs s).trace.calls) ∧
    (∀ setup names, Job.select setup names = .ok jobs →
      (l.runAll stamp jobs s).trace.calls =
        (Step.all.filter (Step.isChosen names)).map fun step => (Job.ofStep setup step).call) ∧
    Step.all.Nodup := by
  have hcalls := calls_runAll l stamp jobs s
  refine ⟨hcalls, ?recorded, ?tokens, ?alike, ?selected, Step.nodup_all⟩
  case recorded =>
    intro seen
    rw [state_runAll, state_runAll, foldl_after_recording]
  case tokens =>
    intro call hcall
    rw [hcalls] at hcall
    exact Job.isEmpty_of_mem_launches hcall
  case alike =>
    intro τ l' stamp' s'
    rw [hcalls, calls_runAll]
  case selected =>
    intro setup names hselect
    rw [hcalls, Job.eq_of_select hselect, Job.launches_map_ofStep]

/-- Names out of order, with blanks and one of them twice, at a launcher that starts nothing: each
of the two steps is still called once, in catalogue order. -/
theorem runAll_calls_of_unordered_names :
    ∃ jobs, Job.select (Setup.sample true) [" sim:fsm", "fmt", "sim:fsm"] = .ok jobs ∧
      (Launcher.runAll ⟨fun _ (s : Unit) => (⟨.error .nulByte, [], []⟩, s), fun _ => 0⟩
        ⟨RunId.ofChance fun _ => 0, Timestamp.epoch⟩ jobs ()).trace.calls =
        [(Job.ofStep (Setup.sample true) .fmt).call,
          (Job.ofStep (Setup.sample true) (.simulate .fsm)).call] := by
  have hchosen : Step.all.filter (Step.isChosen [" sim:fsm", "fmt", "sim:fsm"]) =
      [.fmt, .simulate .fsm] := by decide
  obtain ⟨jobs, hjobs⟩ : ∃ jobs,
      Job.select (Setup.sample true) [" sim:fsm", "fmt", "sim:fsm"] = .ok jobs := ⟨_, rfl⟩
  refine ⟨jobs, hjobs, ?_⟩
  rw [(runAll_calls _ _ jobs ()).2.2.2.2.1 _ _ hjobs, hchosen]
  rfl

end Launcher

end CiHarness
