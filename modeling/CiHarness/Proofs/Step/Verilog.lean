import CiHarness.Proofs.Project.Layout
import CiHarness.Proofs.Step.Placement
import CiHarness.Proofs.Step.Setup

/-!
# Where the Verilog goes

A compile step is told its output by the name `ci/<scenario>.v`, seen from the project root; a
simulation step is started in the harness directory, whatever it is called. The main statement says
when the two agree as paths: exactly when the last component of the harness directory is `ci`. Paths
are compared as they are written, and no link is followed: with a link `ci` to a harness directory
of another name, the two paths differ and yet lead to one file.
-/
namespace CiHarness

/-- The token after the last occurrence of an option. -/
def valueOf? (option : String) : List String → Option String
  | [] => none
  | token :: rest => (valueOf? option rest).or (if token = option then rest.head? else none)

/-- What stands before the last occurrence of an option does not matter. -/
theorem valueOf?_append {option value : String} {rest : List String}
    (h : valueOf? option rest = some value) (before : List String) :
    valueOf? option (before ++ rest) = some value := by
  induction before with
  | nil => exact h
  | cons token before ih => rw [List.cons_append, valueOf?, ih, Option.some_or]

/-- Two paths that differ at most in empty segments and single dots. -/
def Path.Alike (p q : Path) : Prop := p.isAbsolute = q.isAbsolute ∧ p.components = q.components

instance (p q : Path) : Decidable (p.Alike q) := inferInstanceAs (Decidable (_ ∧ _))

namespace Setup

/-- The host directory that a step of a kind finds as its working directory: the one it is started
in, or the one its container mounts. -/
def workplace (setup : Setup) (kind : ProfileKind) : Path :=
  if setup.containerized then (setup.profile kind).mount.host else setup.directory kind

/-- The file that the compile step of a scenario writes, on the host. -/
def verilogWritten? (setup : Setup) (s : Scenario) : Option Path :=
  (valueOf? "-o" (Job.ofStep setup (.compile s)).command.tokens).map
    (setup.workplace (Step.compile s).kind).join

/-- The file that the simulation step of a scenario looks for, on the host. -/
def verilogSought (setup : Setup) (s : Scenario) : Path :=
  (setup.workplace (Step.simulate s).kind).join (s.name ++ ".v")

variable (identity : Identity) (layout : Layout) (runtime : String) (containerized : Bool)

@[simp] theorem workplace_ofLayout_toolchain :
    (ofLayout identity layout runtime containerized).workplace .toolchain = layout.projectRoot := by
  cases containerized <;> rfl

@[simp] theorem workplace_ofLayout_eda :
    (ofLayout identity layout runtime containerized).workplace .eda = layout.ciDir := by
  cases containerized <;> rfl

end Setup

namespace Scenario

theorem valueOf?_compileCommand (s : Scenario) :
    valueOf? "-o" s.compileCommand.tokens = some s.verilogOutput := by
  cases s <;> decide

theorem verilogOutput_eq (s : Scenario) : s.verilogOutput = "ci" ++ "/" ++ (s.name ++ ".v") := by
  cases s <;> decide

/-- The file name of a scenario's Verilog is one component. -/
theorem components_verilogName (s : Scenario) :
    (Path.mk (s.name ++ ".v")).components = [(s.name ++ ".v").toList] := by
  cases s <;> decide

theorem components_verilogOutput (s : Scenario) :
    (Path.mk s.verilogOutput).components = ["ci".toList, (s.name ++ ".v").toList] := by
  cases s <;> decide

theorem verilogName_proper (s : Scenario) :
    '/' ∉ (s.name ++ ".v").toList ∧ Path.isIdle (s.name ++ ".v").toList = false := by
  cases s <;> decide

end Scenario

namespace Setup

/-- The Verilog of a layout is written below its project root, in a container or not. -/
theorem verilogWritten?_ofLayout (identity : Identity) (layout : Layout) (runtime : String)
    (containerized : Bool) (s : Scenario) :
    (ofLayout identity layout runtime containerized).verilogWritten? s =
      some (layout.projectRoot.join s.verilogOutput) := by
  have htokens := tokens_placed (ofLayout identity layout runtime containerized) s.compileCommand
    .toolchain
  simp only [verilogWritten?, Job.ofStep, Step.command, Step.kind, htokens,
    valueOf?_append s.valueOf?_compileCommand, Option.map_some, workplace_ofLayout_toolchain]

/-- A file that is written below the parent of a directory lies in that directory if the directory
has the name that was written. -/
theorem alike_join_iff {layout : Layout} (habs : layout.ciDir.isAbsolute = true)
    (hparent : layout.ciDir.parent? = some layout.projectRoot) (s : Scenario) :
    (layout.projectRoot.join s.verilogOutput).Alike (layout.ciDir.join (s.name ++ ".v")) ↔
      layout.ciDir.components.getLast? = some "ci".toList := by
  have hroot : layout.projectRoot.isAbsolute = true := Path.isAbsolute_of_parent? hparent
  obtain ⟨last, -, hdir⟩ := Path.components_of_parent? hparent
  -- Both places end with the file name, so only the name of the directory is left to compare.
  rw [Path.Alike, Path.isAbsolute_join hroot, Path.isAbsolute_join habs, Path.components_join hroot,
    Path.components_join habs, hdir, s.components_verilogOutput, s.components_verilogName]
  simp [eq_comm]

/-- **A simulation looks for the Verilog of its scenario at the path where it is written exactly in
a directory named `ci`.** Every accepted layout gives a setup whose steps work in the two
directories of the layout, on the host and in containers alike. The Verilog is written directly
inside the directory `ci` of the project root, and this is the path at which the simulation looks
for it exactly if the harness directory has that name. What is said is about the texts of the paths:
where `ci` is a link to a harness directory of another name, the file is found by the other path
too. -/
theorem verilog_found_iff_named_ci {files : FileView} {asked : Path} {layout : Layout}
    (h : Layout.resolve files asked = .ok layout) (identity : Identity) (runtime : String)
    (containerized : Bool) (s : Scenario) :
    ∃ setup written, build identity layout runtime containerized = .ok setup ∧
      setup.verilogWritten? s = some written ∧
      (Job.ofStep setup (.compile s)).dir = layout.projectRoot ∧
      setup.toolchain.mount = ⟨layout.projectRoot, setup.toolchain.workdir⟩ ∧
      (Job.ofStep setup (.simulate s)).dir = layout.ciDir ∧
      setup.eda.mount = ⟨layout.ciDir, setup.eda.workdir⟩ ∧
      setup.verilogSought s = layout.ciDir.join (s.name ++ ".v") ∧
      written.parent? = some (layout.projectRoot.join "ci") ∧
      (written.Alike (setup.verilogSought s) ↔
        layout.ciDir.components.getLast? = some "ci".toList) := by
  obtain ⟨habs, hparent⟩ := Layout.parent?_ciDir h
  have hroot : layout.projectRoot.isAbsolute = true := Path.isAbsolute_of_parent? hparent
  have hbuild : build identity layout runtime containerized =
      .ok (ofLayout identity layout runtime containerized) := by
    rw [build_eq, if_pos hroot, if_pos habs]
  have hsought : (ofLayout identity layout runtime containerized).verilogSought s =
      layout.ciDir.join (s.name ++ ".v") := by
    rw [verilogSought, Step.kind, workplace_ofLayout_eda]
  obtain ⟨hmark, hidle⟩ := s.verilogName_proper
  refine ⟨_, _, hbuild, verilogWritten?_ofLayout identity layout runtime containerized s, rfl, rfl,
    rfl, rfl, hsought, ?_, ?_⟩
  · rw [s.verilogOutput_eq]
    exact Path.parent?_join hroot (by decide) (by decide) hmark hidle
  · rw [hsought]
    exact alike_join_iff habs hparent s

/-- In the project at `/proj`, the harness directory of which is `/proj/ci`, the simulation finds
it. -/
theorem verilog_found_in_ci :
    ∃ setup written, build ⟨1000, 1000⟩ ⟨⟨"/proj"⟩, ⟨"/proj/ci"⟩⟩ defaultRuntime true = .ok setup ∧
      setup.verilogWritten? .fsm = some written ∧ written.Alike (setup.verilogSought .fsm) := by
  have h : Layout.resolve (.ofProject ⟨"/proj/ci"⟩ ⟨"/proj/Cargo.toml"⟩) ⟨"/proj/ci"⟩ =
      .ok ⟨⟨"/proj"⟩, ⟨"/proj/ci"⟩⟩ := by decide
  obtain ⟨setup, written, hbuild, hwritten, -, -, -, -, -, -, hiff⟩ :=
    verilog_found_iff_named_ci h ⟨1000, 1000⟩ defaultRuntime true .fsm
  exact ⟨setup, written, hbuild, hwritten, hiff.mpr (by decide)⟩

/-- A project whose harness directory is `/proj/harness` is accepted, and its Verilog is written to
`/proj/ci`. -/
theorem verilog_missed_in_harness :
    ∃ files layout, Layout.resolve files ⟨"/proj/harness"⟩ = .ok layout ∧
      ∀ containerized, ∃ setup, build ⟨1000, 1000⟩ layout defaultRuntime containerized = .ok setup ∧
        setup.verilogWritten? .fsm = some ⟨"/proj/ci/fsm.v"⟩ ∧
        setup.verilogSought .fsm = ⟨"/proj/harness/fsm.v"⟩ ∧
        ¬ Path.Alike ⟨"/proj/ci/fsm.v"⟩ ⟨"/proj/harness/fsm.v"⟩ := by
  refine ⟨.ofProject ⟨"/proj/harness"⟩ ⟨"/proj/Cargo.toml"⟩,
    ⟨⟨"/proj"⟩, ⟨"/proj/harness"⟩⟩, by decide,
    fun containerized => ?_⟩
  cases containerized <;> exact ⟨_, rfl, by decide, by decide, by decide⟩

end Setup

end CiHarness
