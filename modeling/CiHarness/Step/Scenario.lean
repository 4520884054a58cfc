import CiHarness.Container.Command

/-!
# Scenarios

The example programs that are compiled to Verilog and then simulated. Compilation runs in the
project root and leaves the Verilog file in the directory `ci` below it; simulation runs in the
harness directory.
-/
namespace CiHarness

/-- An example program. -/
inductive Scenario where
  | register
  | fsm
  | vaddConst
  deriving DecidableEq

namespace Scenario

/-- All scenarios in the order in which they run. -/
def all : List Scenario := [.register, .fsm, .vaddConst]

/-- The name of a scenario. -/
def name : Scenario → String
  | .register => "register"
  | .fsm => "fsm"
  | .vaddConst => "vadd_const"

/-- The scenario of a name. -/
def ofName? (s : String) : Option Scenario := all.find? (·.name == s)

/-- The example's source, seen from the project root. -/
def source : Scenario → String
  | .register => "examples/isa/scalar/register.ret"
  | .fsm => "examples/basic/fsm.ret"
  | .vaddConst => "examples/basic/vadd_const.ret"

/-- The compiled Verilog, seen from the project root. -/
def verilogOutput (s : Scenario) : String := "ci/" ++ s.name ++ ".v"

/-- The compiler is run on the source. -/
def compileCommand (s : Scenario) : Command :=
  ⟨["./target/release/reticle", s.source, "-b", "verilog", "-o", s.verilogOutput]⟩

/-- The simulation script is given the scenario and the directories of a profile. -/
def simulateCommand (s : Scenario) (p : Profile) : Command :=
  ⟨["vivado_sim.sh", s.name, p.workdir] ++ p.outputDir.toList⟩

end Scenario

end CiHarness
