import CiHarness.Step.Scenario
import CiHarness.Step.Setup

/-!
# The catalogue of steps

Every step that the harness knows, in the order in which steps run: format, lint, test and build the
compiler, then compile every scenario, then simulate every scenario. Only simulations run in the
simulator container, and only their output is looked at.
-/
namespace CiHarness

/-- A step of the catalogue. -/
inductive Step where
  | fmt
  | clippy
  | test
  | build
  | compile (s : Scenario)
  | simulate (s : Scenario)
  deriving DecidableEq

namespace Step

/-- All steps in the order in which they run. -/
def all : List Step :=
  [.fmt, .clippy, .test, .build] ++ Scenario.all.map .compile ++ Scenario.all.map .simulate

/-- The name of a step. -/
def name : Step → String
  | .fmt => "fmt"
  | .clippy => "clippy"
  | .test => "test"
  | .build => "build"
  | .compile s => "compile:" ++ s.name
  | .simulate s => "sim:" ++ s.name

/-- The kind of container that a step runs in. -/
def kind : Step → ProfileKind
  | .simulate _ => .eda
  | _ => .toolchain

/-- Whether the output of a step decides on its success. -/
def isJudgedByOutput : Step → Bool
  | .simulate _ => true
  | _ => false

/-- The command of a step before it is placed. -/
def command (step : Step) (setup : Setup) : Command :=
  match step with
  | .fmt => ⟨["cargo", "fmt", "--", "--check"]⟩
  | .clippy => ⟨["cargo", "clippy", "--all-targets", "--all-features", "--", "-D", "warnings"]⟩
  | .test => ⟨["cargo", "test"]⟩
  | .build => ⟨["cargo", "build", "--release"]⟩
  | .compile s => s.compileCommand
  | .simulate s => s.simulateCommand (setup.profile .eda)

/-- The step of a name without blanks around it. -/
def ofExactName? (s : String) : Option Step :=
  if s = "fmt" then some .fmt
  else if s = "clippy" then some .clippy
  else if s = "test" then some .test
  else if s = "build" then some .build
  else
    match Text.splitOnce ':' s with
    | some ("compile", scenario) => (Scenario.ofName? scenario).map .compile
    | some ("sim", scenario) => (Scenario.ofName? scenario).map .simulate
    | _ => none

/-- The step of a name, blanks around it passed over. A name of no step is reported as given. -/
def ofName (s : String) : Except Failure Step :=
  match ofExactName? (Text.trim s) with
  | some step => .ok step
  | none => .error (.unknownStep s)

end Step

end CiHarness
