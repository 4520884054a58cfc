import CiHarness.CommandLine.Performance
import CiHarness.Host.Machine

/-!
# The program on a machine

A machine is a workplace: its files are looked at from the working directory, and programs run under
its user.
-/
namespace CiHarness.CommandLine

/-- A machine as the place where invocations are performed. -/
def workplace (m : Machine) (stamp : Stamp) : Workplace Machine :=
  ⟨m.files.view m.cwd, m.identity, Machine.launcher, stamp⟩

/-- The program, called on a machine. -/
def respondOn (m : Machine) (stamp : Stamp) (env : Environment) (args : List String) :
    Response Machine :=
  (workplace m stamp).respond env args m

end CiHarness.CommandLine
