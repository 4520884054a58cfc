import CiHarness.Project.Layout
import CiHarness.Text.Blank

/-!
# Container profiles

A profile says how one container is started: its image, its working directory, the directory mounted
there and, for some images, a login shell. There are two kinds: the toolchain, which builds the
compiler on the project root, and the simulator, which runs test benches on the harness directory.
The conditions on a profile are looked at in a fixed order, and the first one that fails is
reported.
-/
namespace CiHarness

/-- The two kinds of container. -/
inductive ProfileKind where
  | toolchain
  | eda
  deriving DecidableEq

/-- The name of a kind. -/
def ProfileKind.name : ProfileKind → String
  | .toolchain => "toolchain"
  | .eda => "eda"

/-- A host directory and the place in the container where it appears. -/
structure Mount where
  host : Path
  container : String
  deriving DecidableEq

/-- The volume option of a container runtime: source and target with a colon between them. -/
def Mount.volumeOption (m : Mount) : String := m.host.text ++ ":" ++ m.container

/-- How a container is started. -/
structure Profile where
  kind : ProfileKind
  image : String
  workdir : String
  outputDir : Option String
  mount : Mount
  loginShell : Option (String × String)
  deriving DecidableEq

namespace Profile

/-- A place inside a container is absolute if it begins with a slash. -/
def isRooted (s : String) : Bool := (Path.mk s).isAbsolute

/-- The first condition that a profile breaks. -/
def fault? (p : Profile) : Option ProfileFault :=
  if Text.trim p.image = "" then some .emptyImage
  else if !isRooted p.workdir then some .relativeWorkdir
  else if !isRooted p.mount.container then some .relativeMountTarget
  else if !p.mount.host.isAbsolute then some .relativeMountSource
  else if p.outputDir.any (!isRooted ·) then some .relativeOutputDir
  else if p.loginShell.any fun (shell, option) => shell = "" || option = "" then
    some .emptyShellToken
  else none

/-- A profile is accepted if it breaks no condition. -/
def checked (p : Profile) : Except Failure Profile :=
  match p.fault? with
  | none => .ok p
  | some fault => .error (.invalidProfile p.kind.name fault)

/-- The directory of the toolchain container where the project appears. -/
def toolchainWorkdir : String := "/usr/src/myapp"

/-- The directory of the simulator container where the harness directory appears. -/
def edaWorkdir : String := "/home/vivado/workspace"

/-- The profile of all steps that build, with the project root mounted. -/
def toolchain (l : Layout) : Except Failure Profile :=
  checked ⟨.toolchain, "reticle-rust", toolchainWorkdir, none, ⟨l.projectRoot, toolchainWorkdir⟩,
    none⟩

/-- The profile of all simulations, with the harness directory mounted. -/
def eda (l : Layout) : Except Failure Profile :=
  checked ⟨.eda, "vivado", edaWorkdir, some "/home/vivado/output", ⟨l.ciDir, edaWorkdir⟩,
    some ("bash", "--login")⟩

end Profile

end CiHarness
