import CiHarness.Host.Program
import CiHarness.Step.Setup

/-!
# Machines

A machine is a file tree, a working directory, an environment and the user it runs for. It starts
processes: the directory is entered first, then the program is looked for, and then it runs to its
end with an empty input. What it does to the files is still there when the next process is started.

A machine is what the harness is tried out on. The programs that it starts (the modules of
`Host.Shell` and `Host.Tool`, and `Host.Wrapper`) stand for programs of the system that are no part
of the harness. They are there so that whole runs can be carried out and compared, and no theorem
speaks of them: what is proved of a run is proved for every launcher, and of a machine only what is
decided before a program runs.
-/
namespace CiHarness

/-- A host for the harness. The clock counts microseconds. -/
structure Machine where
  files : FileTree
  cwd : Place
  environment : List (String × String)
  identity : Identity
  clock : Nat

namespace Machine

/-- A world with the files of a machine, in which a process can write an output and complaints; and
where that process stands. -/
def stage (m : Machine) (here : Place) : Setting × World :=
  let (out, w) := { World.ofFiles m.files with clock := m.clock }.openSink
  let (complaints, w) := w.openSink
  let environment := m.environment.map fun (name, value) =>
    (Octets.ofText name, Octets.ofText value)
  (⟨here, environment, [(0, World.voidStream), (1, out), (2, complaints)], w.lastNumber, 0o022⟩, w)

/-- A command runs to its end in a directory. -/
def exec (m : Machine) (here : Place) (command : Command) : Except SystemError Process × Machine :=
  let (s, w) := m.stage here
  let words := command.tokens.map Octets.ofText
  let started := do
    let path ← m.files.pathOf here ((s.value? "PATH").getD Program.standardPath) (words.headD "")
    Program.run Program.depthLimit s path words w
  match started with
  | .error e => (.error e, m)
  | .ok (ending, after) =>
    let after := after.settleAll
    let bytes (descriptor : Nat) : List UInt8 :=
      ((s.stream? descriptor).elim .empty fun stream => (after.collected stream).all).toList
    (.ok ⟨ending, bytes 1, bytes 2⟩,
      { m with files := after.files, clock := m.clock + (after.clock - w.clock) })

/-- A call starts a process. The directory is entered before the program is looked for. -/
def start (call : Call) (m : Machine) : Except StartError Process × Machine :=
  if call.command.tokens.any FileTree.hasNul || FileTree.hasNul call.dir.text then
    (.error .nulByte, m)
  else
    match m.files.findEntry m.cwd call.dir with
    | .error e => (.error (.system e), m)
    | .ok (here, entry) =>
      if entry.isDirectory then
        let (result, m) := m.exec here call.command
        (result.mapError .system, m)
      else (.error (.system .notADirectory), m)

/-- The launcher of a machine. -/
def launcher : Launcher Machine := Launcher.ofProcesses start fun m => m.clock / 1000

/-- The setup of a harness directory on a machine. -/
def setup (m : Machine) (ciDir : Path) (runtime : Option String) (containerized : Bool) :
    Except Failure Setup :=
  Setup.resolve (m.files.view m.cwd) m.identity ciDir runtime containerized

end Machine

end CiHarness
