import CiHarness.Step.Setup

/-!
# Setups of a layout

The two profiles of a setup are fixed but for the directories they mount, so only the layout can
make them invalid, and only by a directory that is not absolute. The toolchain is looked at first.
-/
namespace CiHarness

namespace Profile

/-- The toolchain profile with a directory mounted. -/
def toolchainOn (root : Path) : Profile :=
  ⟨.toolchain, "reticle-rust", toolchainWorkdir, none, ⟨root, toolchainWorkdir⟩, none⟩

/-- The simulator profile with a directory mounted. -/
def edaOn (ciDir : Path) : Profile :=
  ⟨.eda, "vivado", edaWorkdir, some "/home/vivado/output", ⟨ciDir, edaWorkdir⟩,
    some ("bash", "--login")⟩

theorem toolchain_eq (l : Layout) :
    Profile.toolchain l =
      if l.projectRoot.isAbsolute then .ok (toolchainOn l.projectRoot)
      else .error (.invalidProfile "toolchain" .relativeMountSource) := by
  have himage : Text.trim "reticle-rust" ≠ "" := by decide
  have hrooted : isRooted toolchainWorkdir = true := by decide
  cases h : l.projectRoot.isAbsolute <;>
    simp [Profile.toolchain, checked, fault?, himage, hrooted, h, ProfileKind.name, toolchainOn]

theorem eda_eq (l : Layout) :
    Profile.eda l =
      if l.ciDir.isAbsolute then .ok (edaOn l.ciDir)
      else .error (.invalidProfile "eda" .relativeMountSource) := by
  have himage : Text.trim "vivado" ≠ "" := by decide
  have hrooted : isRooted edaWorkdir = true := by decide
  have hout : isRooted "/home/vivado/output" = true := by decide
  cases h : l.ciDir.isAbsolute <;>
    simp [Profile.eda, checked, fault?, himage, hrooted, hout, h, ProfileKind.name, edaOn]

end Profile

namespace Setup

/-- The setup of a layout, with both of its directories mounted. -/
def ofLayout (identity : Identity) (layout : Layout) (runtime : String)
    (containerized : Bool) : Setup :=
  ⟨identity, layout, Profile.toolchainOn layout.projectRoot, Profile.edaOn layout.ciDir, runtime,
    containerized⟩

/-- A setup can be built exactly on absolute directories, and then it is the one of its layout. -/
theorem build_eq (identity : Identity) (l : Layout) (runtime : String) (containerized : Bool) :
    build identity l runtime containerized =
      if l.projectRoot.isAbsolute then
        if l.ciDir.isAbsolute then .ok (ofLayout identity l runtime containerized)
        else .error (.invalidProfile "eda" .relativeMountSource)
      else .error (.invalidProfile "toolchain" .relativeMountSource) := by
  rw [build, Profile.toolchain_eq, Profile.eda_eq]
  cases l.projectRoot.isAbsolute <;> cases l.ciDir.isAbsolute <;> rfl

/-- The setup of a project at `/proj`. -/
def sample (containerized : Bool) : Setup :=
  ofLayout ⟨1000, 1000⟩ ⟨⟨"/proj"⟩, ⟨"/proj/ci"⟩⟩ defaultRuntime containerized

end Setup

end CiHarness
