import CiHarness.Proofs.Run.Sequence
import CiHarness.Proofs.Step.Setup
import CiHarness.Step.Job
import Mathlib.Logic.Function.Basic

/-!
# Steps in isolation

Nothing but the launcher's state passes from one job of a run to the next. So if a launcher answers
each call in one way, whatever was called before, then what is found about a job follows from that
job and the answer to its call: other jobs, their answers and the place among them have no part in
it. The main statement is `runAll_isolated`.
-/
namespace CiHarness

variable {σ τ : Type}

/-- What is found about a step, apart from the time it took. -/
structure Finding where
  name : String
  command : Command
  status : Status
  deriving DecidableEq

/-- The finding of a report. -/
def StepReport.finding (r : StepReport) : Finding := ⟨r.name, r.command, r.status⟩

/-- The findings of a run, in the order of its steps. -/
def RunReport.findings (r : RunReport) : List Finding := r.steps.map StepReport.finding

/-- What is to be found about a job by the answer to its call. -/
def Job.finding (job : Job) (answer : Except StartError Output) : Finding :=
  ⟨job.name, job.command, job.due answer⟩

/-- No answer changes what is found about a job that has nothing to launch. -/
theorem Job.finding_of_isEmpty {job : Job} (h : job.command.isEmpty = true)
    (answer answer' : Except StartError Output) : job.finding answer = job.finding answer' := by
  have htokens : job.command.tokens = [] := job.isEmpty_command_iff.mp h
  simp [finding, due, htokens]

namespace Launcher

/-- A launcher answers by a function of the call if its state has no part in the answer. -/
def AnswersBy (l : Launcher σ) (f : Call → Except StartError Output) : Prop :=
  ∀ call s, (l.launch call s).1.result = f call

/-- A run comes to a success if no finding is a failure. -/
theorem success_runAll_eq (l : Launcher σ) (stamp : Stamp) (jobs : List Job) (s : σ) :
    (l.runAll stamp jobs s).value.success =
      (l.runAll stamp jobs s).value.findings.all fun found => found.status == .passed := by
  rw [RunReport.findings, List.all_map]
  rfl

variable {l : Launcher σ} {l' : Launcher τ} {f g : Call → Except StartError Output}

/-- With one answer to each call, the findings of a run are found job by job. -/
theorem findings_runAll (h : l.AnswersBy f) (stamp : Stamp) (jobs : List Job) (s : σ) :
    (l.runAll stamp jobs s).value.findings = jobs.map fun job => job.finding (f job.call) := by
  have hreport (job : Job) (s : σ) : (l.reportJob job s).value.finding =
      job.finding (f job.call) := by
    rw [value_reportJob, h]
    rfl
  exact map_reportJobs hreport jobs s

/-- **Steps are isolated from each other.** Let two launchers answer each call in one way. Where
both answer a job's call alike, they find the same about that job, whatever they answer to others.
Of one of them, jobs that are picked out of a run, in any order and any number of times, have the
findings they had in it; jobs in another order have the same findings in that order, and the same
success. If the launchers differ in the answer to one call, only jobs with that very call are found
otherwise, and what is found about those is what the other answer demands. -/
theorem runAll_isolated (h : l.AnswersBy f) (h' : l'.AnswersBy g) (stamp stamp' : Stamp)
    (jobs : List Job) (s : σ) (s' : τ) :
    let found := (l.runAll stamp jobs s).value.findings
    let found' := (l'.runAll stamp' jobs s').value.findings
    (∀ i (hi : i < jobs.length),
      (jobs[i].command.isEmpty = false → f jobs[i].call = g jobs[i].call) →
      ∃ finding, found[i]? = some finding ∧ found'[i]? = some finding) ∧
    (∀ (picks : List (Fin jobs.length)) (stamp₁ : Stamp) (s₁ : σ),
      (l.runAll stamp₁ (picks.map jobs.get) s₁).value.findings.map some = picks.map fun i =>
        found[i]?) ∧
    (∀ (jobs₁ : List Job) (stamp₁ : Stamp) (s₁ : σ), jobs.Perm jobs₁ →
      found.Perm (l.runAll stamp₁ jobs₁ s₁).value.findings ∧
      (l.runAll stamp₁ jobs₁ s₁).value.success = (l.runAll stamp jobs s).value.success) ∧
    (∀ call answer, g = Function.update f call answer → ∀ i (hi : i < jobs.length),
      (jobs[i].call ≠ call → found'[i]? = found[i]?) ∧
      (jobs[i].call = call → found'[i]? = some (jobs[i].finding answer))) := by
  intro found found'
  have hfound : found = jobs.map fun job => job.finding (f job.call) :=
    findings_runAll h stamp jobs s
  have hfound' : found' = jobs.map fun job => job.finding (g job.call) :=
    findings_runAll h' stamp' jobs s'
  have hget (i : Nat) (hi : i < jobs.length) :
      found[i]? = some (jobs[i].finding (f jobs[i].call)) := by
    simp [hfound, hi]
  have hget' (i : Nat) (hi : i < jobs.length) :
      found'[i]? = some (jobs[i].finding (g jobs[i].call)) := by
    simp [hfound', hi]
  refine ⟨?agreed, ?picked, ?permuted, ?changed⟩
  case agreed =>
    intro i hi hagree
    refine ⟨_, hget i hi, ?_⟩
    cases hempty : jobs[i].command.isEmpty with
    | true => rw [hget' i hi, jobs[i].finding_of_isEmpty hempty]
    | false => rw [hget' i hi, hagree hempty]
  case picked =>
    intro picks stamp₁ s₁
    rw [findings_runAll h, List.map_map, List.map_map]
    exact List.map_congr_left fun i _ => (hget i i.isLt).symm
  case permuted =>
    intro jobs₁ stamp₁ s₁ hperm
    have hfindings : found.Perm (l.runAll stamp₁ jobs₁ s₁).value.findings := by
      rw [hfound, findings_runAll h]
      exact hperm.map _
    refine ⟨hfindings, ?_⟩
    rw [success_runAll_eq, success_runAll_eq]
    exact hfindings.symm.all_eq
  case changed =>
    rintro call answer rfl i hi
    refine ⟨fun hne => ?_, fun heq => ?_⟩
    · rw [hget i hi, hget' i hi, Function.update_of_ne hne]
    · rw [hget' i hi, heq, Function.update_self]

/-- Three simulations at a launcher that counts its calls and passes them all, and at one that has
the marker for the second: the first and the third are found alike. -/
theorem runAll_isolated_scenarios :
    let jobs := Scenario.all.map fun scenario =>
      Job.ofStep (Setup.sample false) (.simulate scenario)
    let fsm := Job.ofStep (Setup.sample false) (.simulate .fsm)
    let good : Call → Except StartError Output := fun _ => .ok ⟨0, some "ok"⟩
    let marked := Function.update good fsm.call (.ok ⟨0, some "~~FAIL~~\n"⟩)
    let counting : Launcher Nat := ⟨fun call n => (⟨good call, [], []⟩, n + 1), id⟩
    let marking : Launcher Unit := ⟨fun call s => (⟨marked call, [], []⟩, s), fun _ => 0⟩
    let found := (counting.runAll ⟨RunId.zero, Timestamp.epoch⟩ jobs 0).value.findings
    let found' := (marking.runAll ⟨RunId.zero, Timestamp.epoch⟩ jobs ()).value.findings
    found'[0]? = found[0]? ∧ found'[1]? = some ⟨"sim:fsm", fsm.command, .contentFailed⟩ ∧
      found'[2]? = found[2]? := by
  intro jobs fsm good marked counting marking found found'
  have hcounting : counting.AnswersBy good := fun _ _ => rfl
  have hmarking : marking.AnswersBy marked := fun _ _ => rfl
  obtain ⟨-, -, -, hchanged⟩ := runAll_isolated hcounting hmarking ⟨RunId.zero, Timestamp.epoch⟩
    ⟨RunId.zero, Timestamp.epoch⟩ jobs 0 ()
  have hothers := hchanged fsm.call _ rfl
  have hfailed : fsm.finding (.ok ⟨0, some "~~FAIL~~\n"⟩) =
      ⟨"sim:fsm", fsm.command, .contentFailed⟩ := by decide
  exact ⟨(hothers 0 (by decide)).1 (by decide), hfailed ▸ (hothers 1 (by decide)).2 rfl,
    (hothers 2 (by decide)).1 (by decide)⟩

end Launcher

end CiHarness
