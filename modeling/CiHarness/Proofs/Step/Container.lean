import CiHarness.Proofs.Step.Placement
import CiHarness.Proofs.Step.Setup

/-!
# Steps in containers

The same layout can be set up for the host and for containers, and the two setups differ in nothing
else. So a job in a container is the job on the host with an invocation before its command, and that
invocation belongs to the kind of the step. What the container mounts is the directory in which the
job is started on the host, and it appears where the command runs. The main statement is
`container_runs_bare_job`.
-/
namespace CiHarness

namespace ProfileKind

/-- The tokens between the image of a kind and the command of a step. -/
def shellTokens : ProfileKind → List String
  | .toolchain => []
  | .eda => ["bash", "--login"]

end ProfileKind

namespace Setup

variable (identity : Identity) (layout : Layout) (runtime : String)

/-- Whether a setup can be built does not depend on the switch. -/
theorem build_eq_ok_iff {containerized : Bool} {setup : Setup} :
    build identity layout runtime containerized = .ok setup ↔
      layout.projectRoot.isAbsolute = true ∧ layout.ciDir.isAbsolute = true ∧
        setup = ofLayout identity layout runtime containerized := by
  rw [build_eq]
  cases layout.projectRoot.isAbsolute <;> cases layout.ciDir.isAbsolute <;> simp [eq_comm]

/-- The directory that a container mounts is the one in which its steps are started on the host. -/
theorem mount_profile_ofLayout (containerized : Bool) (kind : ProfileKind) :
    ((ofLayout identity layout runtime containerized).profile kind).mount =
      ⟨(ofLayout identity layout runtime containerized).directory kind,
        ((ofLayout identity layout runtime containerized).profile kind).workdir⟩ := by
  cases kind <;> rfl

/-- The invocation of a kind, token by token. -/
theorem invocation_profile_ofLayout (containerized : Bool) (kind : ProfileKind) :
    let p := (ofLayout identity layout runtime containerized).profile kind
    p.invocation identity runtime =
      [runtime, "run", "--rm", "--pid=host", "--user",
        toString identity.uid.toNat ++ ":" ++ toString identity.gid.toNat, "-v",
        p.mount.host.text ++ ":" ++ p.mount.container, "-w", p.workdir, p.image] ++
        kind.shellTokens := by
  cases kind <;> rfl

/-- The command of a step before it is placed is the same for all layouts. -/
theorem command_ofLayout (containerized : Bool) (step : Step) :
    step.command (ofLayout identity layout runtime containerized) =
      step.command (sample false) := by
  cases step <;> rfl

/-- The tokens of a job in a container are those of the job on the host after the invocation of its
kind. -/
theorem tokens_ofStep_containerized (step : Step) :
    (Job.ofStep (ofLayout identity layout runtime true) step).command.tokens =
      ((ofLayout identity layout runtime true).profile step.kind).invocation identity runtime ++
        (Job.ofStep (ofLayout identity layout runtime false) step).command.tokens := by
  rw [Job.ofStep, Job.ofStep, tokens_placed, tokens_placed, command_ofLayout, command_ofLayout]
  rfl

/-- **In a container the same job runs on the same directory.** Whenever a layout can be set up at
all, it can be set up both for the host and for containers, with the same profiles. Every step then
gives two jobs with equal names, directories and capture, and the command in the container is the
invocation of the step's kind followed by the tokens of the command on the host. That invocation is
the same for all steps of a kind; it names the runtime, the user, the mount, the working directory
and the image, and for simulations a login shell. The mount joins the directory of the job on the
host to the working directory of the container. -/
theorem container_runs_bare_job {identity : Identity} {layout : Layout} {runtime : String}
    {asked : Bool} {setup : Setup} (h : build identity layout runtime asked = .ok setup) :
    ∃ host inside, build identity layout runtime false = .ok host ∧
      build identity layout runtime true = .ok inside ∧
      (∀ kind, host.profile kind = inside.profile kind ∧
        (inside.profile kind).invocation identity runtime =
          [runtime, "run", "--rm", "--pid=host", "--user",
            toString identity.uid.toNat ++ ":" ++ toString identity.gid.toNat, "-v",
            (inside.profile kind).mount.host.text ++ ":" ++ (inside.profile kind).mount.container,
            "-w", (inside.profile kind).workdir, (inside.profile kind).image] ++ kind.shellTokens ∧
        (inside.profile kind).mount.container = (inside.profile kind).workdir) ∧
      ∀ step, let b := Job.ofStep host step; let w := Job.ofStep inside step
        b.name = w.name ∧ b.step = w.step ∧ b.dir = w.dir ∧ b.capture = w.capture ∧
        b.command = step.command host ∧
        w.command.tokens = (inside.profile step.kind).invocation identity runtime ++
        b.command.tokens ∧
        (inside.profile step.kind).mount.host = b.dir := by
  obtain ⟨hroot, hdir, -⟩ := (build_eq_ok_iff identity layout runtime).mp h
  refine ⟨ofLayout identity layout runtime false, ofLayout identity layout runtime true,
    (build_eq_ok_iff identity layout runtime).mpr ⟨hroot, hdir, rfl⟩,
    (build_eq_ok_iff identity layout runtime).mpr ⟨hroot, hdir, rfl⟩, ?profiles, ?jobs⟩
  case profiles =>
    intro kind
    have hmount := mount_profile_ofLayout identity layout runtime true kind
    refine ⟨?_, invocation_profile_ofLayout identity layout runtime true kind, by rw [hmount]⟩
    cases kind <;> rfl
  case jobs =>
    intro step b w
    have hmount := mount_profile_ofLayout identity layout runtime true step.kind
    have hdirectory : b.dir = (ofLayout identity layout runtime true).directory step.kind := by
      cases hkind : step.kind <;> simp [b, Job.ofStep, directory, ofLayout, hkind]
    refine ⟨rfl, rfl, hdirectory, rfl, rfl,
      tokens_ofStep_containerized identity layout runtime step, ?_⟩
    rw [hmount, hdirectory]

/-- The simulation of a project whose harness directory has a blank and a colon in its name. -/
theorem container_runs_simulation :
    ∃ inside, build ⟨0, 4294967295⟩ ⟨⟨"/my proj"⟩, ⟨"/my proj/c:i"⟩⟩ "podman" true = .ok inside ∧
      (Job.ofStep inside (.simulate .fsm)).dir = ⟨"/my proj/c:i"⟩ ∧
      (Job.ofStep inside (.simulate .fsm)).command.tokens =
        ["podman", "run", "--rm", "--pid=host", "--user", "0:4294967295", "-v",
          "/my proj/c:i:/home/vivado/workspace", "-w", "/home/vivado/workspace", "vivado", "bash",
          "--login",
          "vivado_sim.sh", "fsm", "/home/vivado/workspace", "/home/vivado/output"] := by
  have hasked : build ⟨0, 4294967295⟩ ⟨⟨"/my proj"⟩, ⟨"/my proj/c:i"⟩⟩ "podman" false =
      .ok (ofLayout ⟨0, 4294967295⟩ ⟨⟨"/my proj"⟩, ⟨"/my proj/c:i"⟩⟩ "podman" false) :=
    (build_eq_ok_iff _ _ _).mpr ⟨by decide, by decide, rfl⟩
  obtain ⟨host, inside, hhost, hinside, -, hjobs⟩ := container_runs_bare_job hasked
  obtain ⟨-, -, hdir, -, -, htokens, -⟩ := hjobs (.simulate .fsm)
  obtain ⟨-, -, rfl⟩ := (build_eq_ok_iff _ _ _).mp hhost
  obtain ⟨-, -, rfl⟩ := (build_eq_ok_iff _ _ _).mp hinside
  exact ⟨_, hinside, hdir.symm, htokens.trans (by decide)⟩

end Setup

end CiHarness
