import CiHarness.Proofs.Run.Isolation
import CiHarness.Proofs.Step.Determined
import CiHarness.Proofs.Step.Selection
import Mathlib.Data.List.Nodup

/-!
# Steps told apart by their commands

Under one setup no two steps of the catalogue have the same command, whatever the runtime and the
directories are called: on the host the commands are fixed and all different, and in a container the
image tells the kind of the step, and within one kind the same invocation stands before different
commands. So a step is found again by its command. Two simulations have commands that differ in one
place alone, where each names its scenario. The main statement is `commands_identify_steps`.
-/
namespace CiHarness

/-- Two lists with the same parts around two different elements differ at that place and nowhere
else. -/
theorem getElem?_append_cons_ne_iff {α : Type} {before after : List α} {x y : α} (h : x ≠ y)
    (i : Nat) :
    (before ++ x :: after)[i]? ≠ (before ++ y :: after)[i]? ↔ i = before.length := by
  rcases Nat.lt_trichotomy i before.length with hlt | rfl | hgt
  · rw [List.getElem?_append_left hlt, List.getElem?_append_left hlt]
    simp [Nat.ne_of_lt hlt]
  · simp [h]
  · obtain ⟨k, rfl⟩ : ∃ k, i = before.length + 1 + k := ⟨i - before.length - 1, by omega⟩
    have hrest : ∀ z : α, (before ++ z :: after)[before.length + 1 + k]? = after[k]? := by
      intro z
      rw [List.append_cons, List.getElem?_append_right (by simp)]
      simp
    simp only [hrest, ne_eq, not_true_eq_false, false_iff]
    omega

/-- Every scenario has a name of its own. -/
theorem Scenario.name_injective : Function.Injective Scenario.name := by
  intro s t h
  cases s <;> cases t <;> simp [Scenario.name] at h ⊢

namespace Step

/-- Before they are placed, the commands of all steps are different. -/
theorem eq_of_command_sample_eq {step other : Step}
    (h : step.command (Setup.sample false) = other.command (Setup.sample false)) : step =
      other := by
  have hall : ∀ step ∈ Step.all, ∀ other ∈ Step.all,
      step.command (Setup.sample false) = other.command (Setup.sample false) → step = other := by
    decide
  exact hall step step.mem_all other other.mem_all h

/-- The step that a command is of under a setup. -/
def ofCommand? (setup : Setup) (c : Command) : Option Step :=
  all.find? fun step => (Job.ofStep setup step).command = c

/-- Where all commands are different, a step is found by its command and by no other. -/
theorem ofCommand?_eq_some_iff {setup : Setup}
    (hinj : Function.Injective fun step => (Job.ofStep setup step).command) {c : Command}
    {step : Step} :
    ofCommand? setup c = some step ↔ (Job.ofStep setup step).command = c := by
  constructor
  · intro h
    simpa using List.find?_some h
  · rintro rfl
    cases hfind : ofCommand? setup (Job.ofStep setup step).command with
    | none =>
      have hnone := List.find?_eq_none.mp hfind step step.mem_all
      simp at hnone
    | some other =>
      have hother : (Job.ofStep setup other).command = (Job.ofStep setup step).command := by
        simpa using List.find?_some hfind
      rw [hinj hother]

end Step

namespace Job

/-- A selected job is the job of its step. -/
theorem eq_ofStep_of_select {setup : Setup} {names : List String} {jobs : List Job}
    (h : select setup names = .ok jobs) {job : Job} (hjob : job ∈ jobs) :
    job = ofStep setup job.step := by
  rw [eq_of_select h] at hjob
  obtain ⟨step, -, rfl⟩ := List.mem_map.mp hjob
  rfl

/-- Where all commands are different, no two selected jobs have the same one. -/
theorem nodup_commands_of_select {setup : Setup}
    (hinj : Function.Injective fun step => (ofStep setup step).command) {names : List String}
    {jobs : List Job}
    (h : select setup names = .ok jobs) : (jobs.map (·.command)).Nodup := by
  rw [eq_of_select h, List.map_map]
  exact List.Nodup.map hinj (Step.nodup_all.filter _)

/-- Where all commands are different, another answer to the command of one step is another answer to
that step alone. -/
theorem update_command_eq {setup : Setup}
    (hinj : Function.Injective fun step => (ofStep setup step).command) {α : Type}
    (key : Command → α) (step : Step)
    (answer : α) {job : Job} (hjob : job = ofStep setup job.step) :
    Function.update key (ofStep setup step).command answer job.command =
      if job.step = step then answer else key job.command := by
  split_ifs with hstep
  · rw [hjob, hstep, Function.update_self]
  · have hne : job.command ≠ (ofStep setup step).command := by
      rw [hjob]
      exact fun heq => hstep (hinj heq)
    rw [Function.update_of_ne hne]

end Job

namespace Setup

variable (identity : Identity) (layout : Layout) (runtime : String) (containerized : Bool)

/-- **No two steps have the same command**, on the host and in containers. -/
theorem command_ofStep_injective :
    Function.Injective fun step =>
      (Job.ofStep (ofLayout identity layout runtime containerized) step).command := by
  have hhost : ∀ step, (Job.ofStep (ofLayout identity layout runtime false) step).command =
      step.command (sample false) := fun step => command_ofLayout identity layout runtime false step
  intro step other h
  cases containerized with
  | false =>
    simp only [hhost] at h
    exact Step.eq_of_command_sample_eq h
  | true =>
    obtain ⟨-, -, hkind, -⟩ := eq_of_command_eq h
    have htokens := congrArg Command.tokens h
    simp only [tokens_ofStep_containerized, hkind, hhost] at htokens
    have hbare := List.append_cancel_left htokens
    exact Step.eq_of_command_sample_eq (congrArg Command.mk hbare)

/-- The command of a simulation is the same for all scenarios but for the one token that names the
scenario. -/
theorem exists_tokens_simulate :
    ∃ before after, ∀ s,
      (Job.ofStep (ofLayout identity layout runtime containerized) (.simulate s)).command.tokens =
      before ++ s.name :: after := by
  refine ⟨(ofLayout identity layout runtime containerized).invocation .eda ++ ["vivado_sim.sh"],
    [Profile.edaWorkdir, "/home/vivado/output"], fun s => ?_⟩
  rw [Job.ofStep, tokens_placed, List.append_assoc]
  rfl

variable {identity layout runtime containerized}

/-- **A command identifies its step.** In every setup that can be made, different steps of the
catalogue have different tokens. The tokens of any two simulations are equally many; there is one
place where each has the name of its own scenario, and different scenarios differ in that place and
in no other. They are started in the same directory and captured alike. So no command stands twice
in a selection, and the step of each selected job is found again by its command. A launcher whose
answers are keyed on the command can thus be told a new answer for one step: a run of the selection
then finds of that step what the new answer demands, and of every other step the same as before. -/
theorem commands_identify_steps {setup : Setup}
    (h : build identity layout runtime containerized = .ok setup) :
    (∀ step other : Step, step ≠ other →
      (Job.ofStep setup step).command.tokens ≠ (Job.ofStep setup other).command.tokens) ∧
    (∃ place : Nat, ∀ s t : Scenario,
      let one := Job.ofStep setup (.simulate s)
      let two := Job.ofStep setup (.simulate t)
      one.command.tokens.length = two.command.tokens.length ∧
      one.command.tokens[place]? = some s.name ∧ two.command.tokens[place]? = some t.name ∧
      (s ≠ t → ∀ i, one.command.tokens[i]? ≠ two.command.tokens[i]? ↔ i = place) ∧
      one.dir = two.dir ∧ one.capture = two.capture) ∧
    ∀ names jobs, Job.select setup names = .ok jobs →
      (jobs.map (·.command)).Nodup ∧
      (∀ job ∈ jobs, Step.ofCommand? setup job.command = some job.step) ∧
      ∀ {σ τ : Type} (l : Launcher σ) (l' : Launcher τ) (key : Command → Except StartError Output)
        (step : Step)
        (answer : Except StartError Output), l.AnswersBy (fun call => key call.command) →
        l'.AnswersBy (fun call =>
          Function.update key (Job.ofStep setup step).command answer call.command) →
        ∀ stamp stamp' s s' i (hi : i < jobs.length),
          (l'.runAll stamp' jobs s').value.findings[i]? =
            if jobs[i].step = step then some (jobs[i].finding answer)
            else (l.runAll stamp jobs s).value.findings[i]? := by
  obtain ⟨-, -, rfl⟩ := (build_eq_ok_iff identity layout runtime).mp h
  have hinj := command_ofStep_injective identity layout runtime containerized
  refine ⟨?distinct, ?simulations, fun names jobs hselect =>
    ⟨Job.nodup_commands_of_select hinj hselect, ?found, ?keyed⟩⟩
  case distinct =>
    intro step other hne htokens
    exact hne (hinj (congrArg Command.mk htokens))
  case simulations =>
    obtain ⟨before, after, htokens⟩ := exists_tokens_simulate identity layout runtime containerized
    refine ⟨before.length, fun s t => ?_⟩
    simp only [htokens]
    refine ⟨by simp, by simp, by simp, fun hne i => ?_, rfl, rfl⟩
    have hname : s.name ≠ t.name := fun heq => hne (Scenario.name_injective heq)
    exact getElem?_append_cons_ne_iff hname i
  case found =>
    intro job hjob
    rw [Step.ofCommand?_eq_some_iff hinj, ← Job.eq_ofStep_of_select hselect hjob]
  case keyed =>
    intro σ τ l l' key step answer hkey hkey' stamp stamp' s s' i hi
    have hjob : jobs[i] = Job.ofStep _ jobs[i].step :=
      Job.eq_ofStep_of_select hselect (List.getElem_mem hi)
    have hanswer := Job.update_command_eq hinj key step answer hjob
    simp only [Launcher.findings_runAll hkey, Launcher.findings_runAll hkey', List.getElem?_map,
      List.getElem?_eq_getElem hi, Option.map_some, Job.call, hanswer]
    split_ifs <;> rfl

/-- A runtime and directories that are named like tokens of the steps. A compilation is told from
the simulation of the same scenario, so where its command alone is answered by a failure, the
simulation is found as before. -/
theorem commands_identify_steps_of_odd_names :
    let setup := ofLayout ⟨0, 0⟩ ⟨⟨"/vivado"⟩, ⟨"/vivado/fsm"⟩⟩ "vivado_sim.sh" true
    let compilation := Job.ofStep setup (.compile .fsm)
    let simulation := Job.ofStep setup (.simulate .fsm)
    let good : Command → Except StartError Output := fun _ => .ok ⟨0, some ""⟩
    let broken := Function.update good compilation.command (.ok ⟨101, none⟩)
    let answering (key : Command → Except StartError Output) : Launcher Unit :=
      ⟨fun call s => (⟨key call.command, [], []⟩, s), fun _ => 0⟩
    let found (key : Command → Except StartError Output) :=
      ((answering key).runAll ⟨RunId.zero, Timestamp.epoch⟩ [compilation, simulation]
        ()).value.findings
    build ⟨0, 0⟩ ⟨⟨"/vivado"⟩, ⟨"/vivado/fsm"⟩⟩ "vivado_sim.sh" true = .ok setup ∧
      compilation.command.tokens ≠ simulation.command.tokens ∧
      Step.ofCommand? setup simulation.command = some (.simulate .fsm) ∧
      (found broken)[0]? = some ⟨"compile:fsm", compilation.command, .processFailed 101⟩ ∧
      (found broken)[1]? = (found good)[1]? := by
  intro setup compilation simulation good broken answering found
  have hbuild : build ⟨0, 0⟩ ⟨⟨"/vivado"⟩, ⟨"/vivado/fsm"⟩⟩ "vivado_sim.sh" true = .ok setup :=
    (build_eq_ok_iff _ _ _).mpr ⟨by decide, by decide, rfl⟩
  have hselect : Job.select setup ["sim:fsm", "compile:fsm"] = .ok [compilation, simulation] := by
    rfl
  have hfailed : compilation.finding (.ok ⟨101, none⟩) =
      ⟨"compile:fsm", compilation.command, .processFailed 101⟩ := by rfl
  obtain ⟨hdistinct, -, hselected⟩ := commands_identify_steps hbuild
  obtain ⟨-, hfound, hkeyed⟩ := hselected _ _ hselect
  have hrun := hkeyed (answering good) (answering broken) good (.compile .fsm) (.ok ⟨101, none⟩)
    (fun _ _ => rfl) (fun _ _ => rfl) ⟨RunId.zero, Timestamp.epoch⟩
    ⟨RunId.zero, Timestamp.epoch⟩ () ()
  exact ⟨hbuild, hdistinct _ _ (by decide), hfound simulation (by simp),
    hfailed ▸ hrun 0 (by decide), hrun 1 (by decide)⟩

end Setup

end CiHarness
