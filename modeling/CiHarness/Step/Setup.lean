import CiHarness.Container.Command

/-!
# Setup

What is fixed for one run of the harness: who runs it, where the project lies, which container
runtime is used and whether it is used at all. Both profiles are made when the setup is made, so a
setup always holds two valid profiles.
-/
namespace CiHarness

/-- The fixed parameters of a run. -/
structure Setup where
  identity : Identity
  layout : Layout
  toolchain : Profile
  eda : Profile
  runtime : String
  containerized : Bool
  deriving DecidableEq

namespace Setup

/-- The runtime that is used if none is asked for. -/
def defaultRuntime : String := "docker"

/-- A setup for a layout; the toolchain profile is looked at first. -/
def build (identity : Identity) (layout : Layout) (runtime : String) (containerized : Bool) :
    Except Failure Setup :=
  match Profile.toolchain layout with
  | .error failure => .error failure
  | .ok toolchain =>
    match Profile.eda layout with
    | .error failure => .error failure
    | .ok eda => .ok ⟨identity, layout, toolchain, eda, runtime, containerized⟩

/-- A setup for a harness directory that is looked up in a file system. -/
def resolve (files : FileView) (identity : Identity) (ciDir : Path) (runtime : Option String)
    (containerized : Bool) : Except Failure Setup :=
  match Layout.resolve files ciDir with
  | .error failure => .error failure
  | .ok layout => build identity layout (runtime.getD defaultRuntime) containerized

/-- The profile of a kind. -/
def profile (s : Setup) : ProfileKind → Profile
  | .toolchain => s.toolchain
  | .eda => s.eda

/-- The host directory from which the steps of a kind are started. -/
def directory (s : Setup) : ProfileKind → Path
  | .toolchain => s.layout.projectRoot
  | .eda => s.layout.ciDir

/-- A command of a step of a kind, as it is run. -/
def placed (s : Setup) (bare : Command) (kind : ProfileKind) : Command :=
  bare.placed s.identity s.runtime (s.profile kind) s.containerized

end Setup

end CiHarness
