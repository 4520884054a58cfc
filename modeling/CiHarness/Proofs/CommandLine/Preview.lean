import CiHarness.Proofs.CommandLine.Output
import CiHarness.Proofs.CommandLine.Single
import CiHarness.Proofs.Step.Container

/-!
# Previews that can be run

A preview prints the tokens of a command with a space between each two, and quotes none of them. Cut
at its spaces it gives the same tokens again exactly if there are any, and none has a space in it.
Of the tokens of a job only three are not fixed: the user, which is written with digits, the runtime
and the mount. So a preview is the command as it is run unless the job runs in a container, by a
runtime or on a directory with a space in its name. The main statement is `preview_is_command_iff`.
-/
namespace CiHarness

/-- A text is one word if it has no space. -/
def Text.IsWord (s : String) : Prop := ' ' ∉ s.toList

namespace Text

instance (s : String) : Decidable (IsWord s) := inferInstanceAs (Decidable (_ ∉ _))

@[simp] theorem isWord_append {s t : String} : IsWord (s ++ t) ↔ IsWord s ∧ IsWord t := by
  simp [IsWord, String.toList_append]

/-- A number is one word. -/
@[simp] theorem isWord_repr (n : Nat) : IsWord n.repr := not_mem_repr (by decide) n

end Text

/-- The tokens of a command are found in its text exactly if there are any, and all are words. -/
theorem Command.split_display_iff (c : Command) :
    Text.split ' ' c.display = c.tokens ↔ c.tokens ≠ [] ∧ ∀ token ∈ c.tokens, Text.IsWord token :=
  Text.split_join_iff

namespace Setup

variable (identity : Identity) (layout : Layout) (runtime : String) (containerized : Bool)

/-- The command of a step has no spaces in it before it is placed. -/
theorem isWord_of_mem_command {step : Step} {token : String}
    (h : token ∈ (step.command (ofLayout identity layout runtime containerized)).tokens) :
    Text.IsWord token := by
  have hall : ∀ step ∈ Step.all, ∀ token ∈ (step.command (sample false)).tokens,
      Text.IsWord token := by decide
  rw [command_ofLayout] at h
  exact hall step step.mem_all token h

/-- The invocation of a kind has no spaces in it but those of the runtime and of the mounted
directory. -/
theorem forall_isWord_invocation_iff (kind : ProfileKind) :
    let p := (ofLayout identity layout runtime containerized).profile kind
    (∀ token ∈ p.invocation identity runtime, Text.IsWord token) ↔
      Text.IsWord runtime ∧ Text.IsWord p.mount.host.text := by
  intro p
  have hfixed : ∀ token ∈ ["run", "--rm", "--pid=host", "--user", "-v", ":", "-w"],
      Text.IsWord token := by decide
  have hshell : ∀ token ∈ kind.shellTokens, Text.IsWord token := by cases kind <;> decide
  -- But for the mounted directory, the profiles of all layouts are the same.
  have hsample : let q := (sample false).profile kind
      Text.IsWord q.workdir ∧ Text.IsWord q.image ∧ Text.IsWord q.mount.container := by
    cases kind <;> decide
  have hprofile : Text.IsWord p.workdir ∧ Text.IsWord p.image ∧ Text.IsWord p.mount.container := by
    cases kind <;> exact hsample
  have htokens : p.invocation identity runtime = _ ++ kind.shellTokens :=
    invocation_profile_ofLayout identity layout runtime containerized kind
  rw [htokens, List.forall_mem_append, and_iff_left hshell]
  simp only [List.forall_mem_cons] at hfixed ⊢
  simp [hfixed, hprofile, p]

/-- What is mounted for a step is the harness directory for simulations and the project root for all
others. -/
theorem host_mount_ofLayout (step : Step) :
    ((ofLayout identity layout runtime containerized).profile step.kind).mount.host =
      if step.IsSimulation then layout.ciDir else layout.projectRoot := by
  cases step with
  | simulate s => exact (if_pos ⟨s, rfl⟩).symm
  | _ => exact (if_neg (by simp [Step.IsSimulation])).symm

/-- The command of a job has no spaces in it exactly if it is run on the host, or neither the
runtime nor the mounted directory has one. -/
theorem forall_isWord_tokens_iff (step : Step) :
    (∀ token ∈ (Job.ofStep (ofLayout identity layout runtime containerized) step).command.tokens,
      Text.IsWord token) ↔
      containerized = false ∨ Text.IsWord runtime ∧
        Text.IsWord (if step.IsSimulation then layout.ciDir else layout.projectRoot).text := by
  have hbare : ∀ token ∈ (step.command (ofLayout identity layout runtime containerized)).tokens,
      Text.IsWord token :=
    fun token => isWord_of_mem_command identity layout runtime containerized
  rw [Job.ofStep, tokens_placed, List.forall_mem_append, and_iff_left hbare]
  cases containerized with
  | false => simp [Setup.invocation, ofLayout]
  | true =>
    rw [← host_mount_ofLayout identity layout runtime true, or_iff_right (by simp)]
    exact forall_isWord_invocation_iff identity layout runtime true step.kind

end Setup

namespace CommandLine.Workplace

variable {σ : Type} (w : Workplace σ)

/-- A run that selects a step calls the job of that step. -/
theorem mem_calls_performRun (setup : Setup) {only : List String}
    (h : ∀ name ∈ only, Step.IsName name) {step : Step} (hstep : step.isChosen only = true)
    (report : Bool) (s : σ) :
    (Job.ofStep setup step).call ∈ (w.performRun setup only report s).trace.calls := by
  have hchosen : step ∈ Step.all.filter (Step.isChosen only) :=
    List.mem_filter.mpr ⟨step.mem_all, hstep⟩
  rw [w.performRun_of_isName setup report s h]
  simp only [Trace.calls_append, Launcher.calls_runAll, Job.launches_map_ofStep]
  exact List.mem_append_left _ (List.mem_map_of_mem hchosen)

/-- **A preview is the command as it is run exactly if there is no space where one may be.** Of any
command, the tokens are found again by cutting its text at the spaces exactly if there are any, and
none has a space. Of every step, the preview prints one line, and cut at its spaces this line gives
the tokens that are launched for the step, alone or in a selection, exactly if the step is run on
the host, or neither the runtime nor the directory that is mounted for it has a space. That is the
harness directory for simulations and the project root for all other steps. -/
theorem preview_is_command_iff :
    (∀ c : Command, Text.split ' ' c.display = c.tokens ↔
      c.tokens ≠ [] ∧ ∀ token ∈ c.tokens, ' ' ∉ token.toList) ∧
    ∀ identity layout runtime containerized setup,
      Setup.build identity layout runtime containerized = .ok setup →
      ∀ name job, Job.ofName setup name = .ok job →
        let line := job.call.command.display
        let source := if job.step.IsSimulation then layout.ciDir else layout.projectRoot
        (∀ s, w.performIn setup (.preview name) s = ⟨none, [.printed (line ++ "\n")], s⟩) ∧
        (∀ s, (w.performIn setup (.step name) s).trace.calls = [job.call]) ∧
        (∀ report s, (w.performIn setup (.run [name] report) s).trace.calls = [job.call]) ∧
        (∀ only report s, (∀ n ∈ only, Step.IsName n) → job.step.isChosen only = true →
          job.call ∈ (w.performIn setup (.run only report) s).trace.calls) ∧
        (∀ env args (i : Invocation) s, Invocation.ofArguments env args = .ok i →
          i.task = .preview name →
          w.setup i = .ok setup → i.logFilter? env ≠ none →
          (w.respond env args s).trace.stdout = Text.Utf8.encode (line ++ "\n")) ∧
        (setup.profile job.step.kind).mount.host = source ∧
        (Text.split ' ' line = job.call.command.tokens ↔
          containerized = false ∨ ' ' ∉ runtime.toList ∧ ' ' ∉ source.text.toList) := by
  refine ⟨Command.split_display_iff, ?_⟩
  intro identity layout runtime containerized setup hbuild name job hjob line source
  obtain ⟨-, -, rfl⟩ := (Setup.build_eq_ok_iff identity layout runtime).mp hbuild
  obtain ⟨step, hstep, rfl⟩ := Job.exists_of_ofName hjob
  have hne := Job.isEmpty_command_ofStep (.ofLayout identity layout runtime containerized) step
  have hselect := Job.select_singleton (.ofLayout identity layout runtime containerized) hstep
  refine ⟨fun s => performPreview_of_ofName _ s hjob, ?stepped, ?ran, ?selected, ?printed, ?source,
    ?words⟩
  case stepped => exact fun s => (w.performStep_of_ofName _ s hjob hne).1
  case ran => exact fun report s => (w.performRun_of_select _ s hselect hne report).1
  case selected => exact fun only report s hknown hchosen =>
    w.mem_calls_performRun _ hknown hchosen report s
  case printed =>
    intro env args i s hi htask hsetup hfilter
    rw [w.stdout_respond s hi hfilter (by simp [htask]) hsetup, htask, performIn,
      performPreview_of_ofName _ s hjob]
    exact List.append_nil _
  case source => exact Setup.host_mount_ofLayout identity layout runtime containerized step
  case words =>
    have htokens : (Job.ofStep (.ofLayout identity layout runtime containerized)
        step).command.tokens ≠ [] := by
      simpa [Command.isEmpty] using hne
    have hwords := Setup.forall_isWord_tokens_iff identity layout runtime containerized step
    exact (Command.split_display_iff _).trans ((and_iff_right htokens).trans hwords)

/-- With a space in the name of the harness directory alone, the preview of a build step can still
be cut into the command that is run, and the preview of a simulation can not. -/
theorem preview_is_command_iff_of_space :
    let layout : Layout := ⟨⟨"/proj"⟩, ⟨"/proj/c i"⟩⟩
    ∃ setup built simulated, Setup.build ⟨0, 0⟩ layout "docker" true = .ok setup ∧
      Job.ofName setup "build" = .ok built ∧ Job.ofName setup "sim:fsm" = .ok simulated ∧
      Text.split ' ' built.command.display = built.command.tokens ∧
      Text.split ' ' simulated.command.display ≠ simulated.command.tokens := by
  intro layout
  have hbuild : Setup.build ⟨0, 0⟩ layout "docker" true =
      .ok (.ofLayout ⟨0, 0⟩ layout "docker" true) :=
    (Setup.build_eq_ok_iff _ _ _).mpr ⟨by decide, by decide, rfl⟩
  have hbuilt := Job.ofName_of_ofName (.ofLayout ⟨0, 0⟩ layout "docker" true)
    (show Step.ofName "build" = .ok .build by decide)
  have hsimulated := Job.ofName_of_ofName (.ofLayout ⟨0, 0⟩ layout "docker" true)
    (show Step.ofName "sim:fsm" = .ok (.simulate .fsm) by decide)
  obtain ⟨-, hpreview⟩ := preview_is_command_iff (sample [])
  obtain ⟨-, -, -, -, -, -, hwords⟩ := hpreview _ _ _ _ _ hbuild _ _ hbuilt
  obtain ⟨-, -, -, -, -, -, hwords'⟩ := hpreview _ _ _ _ _ hbuild _ _ hsimulated
  exact ⟨_, _, _, hbuild, hbuilt, hsimulated, hwords.mpr (by decide), mt hwords'.mp (by decide)⟩

end CommandLine.Workplace

end CiHarness
