import CiHarness.Step.Job

/-!
# Placed commands

A command is placed on the host or in a container, and either way its own tokens come last and
unchanged. So a job of the catalogue always has something to launch.
-/
namespace CiHarness

/-- What is put before the tokens of a step of a kind. -/
def Setup.invocation (setup : Setup) (kind : ProfileKind) : List String :=
  if setup.containerized then (setup.profile kind).invocation setup.identity setup.runtime else []

theorem Setup.tokens_placed (setup : Setup) (bare : Command) (kind : ProfileKind) :
    (setup.placed bare kind).tokens = setup.invocation kind ++ bare.tokens := by
  rw [placed, Command.placed, invocation]
  split <;> rfl

theorem Step.tokens_command_ne_nil (step : Step) (setup : Setup) :
    (step.command setup).tokens ≠ [] := by
  cases step <;> simp [Step.command, Scenario.compileCommand, Scenario.simulateCommand]

/-- Every job of the catalogue has a token, whatever the setup. -/
theorem Job.isEmpty_command_ofStep (setup : Setup) (step : Step) :
    (Job.ofStep setup step).command.isEmpty = false := by
  have hbare := step.tokens_command_ne_nil setup
  simp [Job.ofStep, Command.isEmpty, Setup.tokens_placed, hbare]

/-- So has every job among several of the catalogue. -/
theorem Job.isEmpty_command_of_mem {setup : Setup} {steps : List Step} {job : Job}
    (h : job ∈ steps.map (Job.ofStep setup)) : job.command.isEmpty = false := by
  obtain ⟨step, -, rfl⟩ := List.mem_map.mp h
  exact isEmpty_command_ofStep setup step

end CiHarness
