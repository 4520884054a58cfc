import CiHarness.Proofs.Json.Reading
import CiHarness.Record.Setup
import CiHarness.Run.Single

/-!
# Steps and containers read back

Every record of a step or a container is read back as what was written, whatever texts, numbers and
optional parts it has, and no object in it has two members of one name. A constant is a text of its
own; a step is a tag, with a scenario beside it only where the step has one. So a job that went
through a record runs as the job itself does. The main statement is `records_read_back`.
-/
namespace CiHarness

@[simp] theorem Path.ofJson?_toJson (p : Path) : Path.ofJson? p.toJson = some p := rfl

@[simp] theorem Path.unambiguous_toJson (p : Path) : p.toJson.Unambiguous := .text p.text

@[simp] theorem Command.ofJson?_toJson (c : Command) : Command.ofJson? c.toJson = some c := by
  simp [Command.ofJson?, Command.toJson]

@[simp] theorem Command.unambiguous_toJson (c : Command) : c.toJson.Unambiguous :=
  Json.unambiguous_texts c.tokens

namespace Identity

@[simp] theorem ofJson?_toJson (i : Identity) : Identity.ofJson? i.toJson = some i := by
  simp [Identity.ofJson?, Identity.toJson]

@[simp] theorem unambiguous_toJson (i : Identity) : i.toJson.Unambiguous := by
  simp [Identity.toJson]

end Identity

namespace Layout

@[simp] theorem ofJson?_toJson (l : Layout) : Layout.ofJson? l.toJson = some l := by
  simp [Layout.ofJson?, Layout.toJson]

@[simp] theorem unambiguous_toJson (l : Layout) : l.toJson.Unambiguous := by
  simp [Layout.toJson]

end Layout

namespace Mount

@[simp] theorem ofJson?_toJson (m : Mount) : Mount.ofJson? m.toJson = some m := by
  simp [Mount.ofJson?, Mount.toJson]

@[simp] theorem unambiguous_toJson (m : Mount) : m.toJson.Unambiguous := by
  simp [Mount.toJson]

end Mount

namespace ProfileKind

@[simp] theorem ofJson?_toJson (k : ProfileKind) : ProfileKind.ofJson? k.toJson = some k := by
  cases k <;> decide

@[simp] theorem unambiguous_toJson (k : ProfileKind) : k.toJson.Unambiguous := .text k.name

end ProfileKind

namespace Profile

@[simp] theorem shellOfJson?_shellToJson (shell : String × String) :
    shellOfJson? (shellToJson shell) = some shell := rfl

@[simp] theorem unambiguous_shellToJson (shell : String × String) :
    (shellToJson shell).Unambiguous :=
  Json.unambiguous_texts [shell.1, shell.2]

/-- A profile is read back with its optional parts as they were, there or not. -/
@[simp] theorem ofJson?_toJson (p : Profile) : Profile.ofJson? p.toJson = some p := by
  have hshell : Json.optional? shellOfJson? (some (p.loginShell.elim .null shellToJson)) =
      some p.loginShell :=
    Json.optional?_elim shellOfJson?_shellToJson rfl p.loginShell
  simp [Profile.ofJson?, Profile.toJson, hshell]

@[simp] theorem unambiguous_toJson (p : Profile) : p.toJson.Unambiguous := by
  have hshell : (p.loginShell.elim .null shellToJson).Unambiguous :=
    Json.unambiguous_elim unambiguous_shellToJson p.loginShell
  simp [Profile.toJson, hshell]

end Profile

namespace Scenario

@[simp] theorem ofJson?_toJson (s : Scenario) : Scenario.ofJson? s.toJson = some s := by
  cases s <;> decide

@[simp] theorem unambiguous_toJson (s : Scenario) : s.toJson.Unambiguous := .text s.name

end Scenario

namespace Step

/-- A step is read back by its tag, with its scenario if it has one. -/
@[simp] theorem ofJson?_toJson (step : Step) : Step.ofJson? step.toJson = some step := by
  cases step <;> simp [Step.ofJson?, Step.toJson, tag, ofTagged?]

@[simp] theorem unambiguous_toJson (step : Step) : step.toJson.Unambiguous := by
  cases step <;> simp [Step.toJson]

end Step

namespace Job

@[simp] theorem ofJson?_toJson (job : Job) : Job.ofJson? job.toJson = some job := by
  simp [Job.ofJson?, Job.toJson]

@[simp] theorem unambiguous_toJson (job : Job) : job.toJson.Unambiguous := by
  simp [Job.toJson]

end Job

/-- **Jobs, profiles, layouts, mounts and identities are read back as they were written**, and so is
everything that they are made of. So a job of the catalogue that was written and read again makes
the same call, and comes to the same under every launcher in every state: the same result, the same
trace and the same state after it. -/
theorem Job.records_read_back :
    (∀ job : Job, job.toJson.Unambiguous ∧ Job.ofJson? job.toJson = some job) ∧
    (∀ step : Step, step.toJson.Unambiguous ∧ Step.ofJson? step.toJson = some step) ∧
    (∀ command : Command, command.toJson.Unambiguous ∧
      Command.ofJson? command.toJson = some command) ∧
    (∀ p : Profile, p.toJson.Unambiguous ∧ Profile.ofJson? p.toJson = some p) ∧
    (∀ layout : Layout, layout.toJson.Unambiguous ∧ Layout.ofJson? layout.toJson = some layout) ∧
    (∀ m : Mount, m.toJson.Unambiguous ∧ Mount.ofJson? m.toJson = some m) ∧
    (∀ identity : Identity, identity.toJson.Unambiguous ∧
      Identity.ofJson? identity.toJson = some identity) ∧
    ∀ (setup : Setup) (step : Step), ∃ back,
      Job.ofJson? (Job.ofStep setup step).toJson = some back ∧
      back.call = (Job.ofStep setup step).call ∧
      ∀ {σ : Type} (launcher : Launcher σ) (s : σ),
        launcher.runJob back s = launcher.runJob (Job.ofStep setup step) s := by
  refine ⟨?job, ?step, ?command, ?profile, ?layout, ?mount, ?identity, ?run⟩
  case job => exact fun job => ⟨job.unambiguous_toJson, job.ofJson?_toJson⟩
  case step => exact fun step => ⟨step.unambiguous_toJson, step.ofJson?_toJson⟩
  case command => exact fun command => ⟨command.unambiguous_toJson, command.ofJson?_toJson⟩
  case profile => exact fun p => ⟨p.unambiguous_toJson, p.ofJson?_toJson⟩
  case layout => exact fun layout => ⟨layout.unambiguous_toJson, layout.ofJson?_toJson⟩
  case mount => exact fun m => ⟨m.unambiguous_toJson, m.ofJson?_toJson⟩
  case identity => exact fun identity => ⟨identity.unambiguous_toJson, identity.ofJson?_toJson⟩
  case run =>
    intro setup step
    exact ⟨Job.ofStep setup step, (Job.ofStep setup step).ofJson?_toJson, rfl, fun _ _ => rfl⟩

end CiHarness
