import CiHarness.Container.Command
import CiHarness.Text.Utf8

/-!
# Launchers

A launcher starts programs for the harness. It is any function of a call and of a state of its own,
so that what it answers may depend on all calls before; it also has a clock, read off its state. A
launcher of processes is one that only says how a process ended and what it wrote: its exit code and
its text follow from that.
-/
namespace CiHarness

/-- A request to run a program in a directory. With capture its output is kept, without it the
output goes where the harness writes its own. -/
structure Call where
  command : Command
  dir : Path
  capture : Bool
  deriving DecidableEq

/-- A program that has ended. -/
structure Output where
  exitCode : Int32
  stdout : Option String
  deriving DecidableEq

namespace Output

/-- An exit code of zero is success. -/
def isSuccess (o : Output) : Bool := o.exitCode == 0

end Output

/-- What a launcher answers: an output or the reason why nothing was started, and the bytes that
went past the harness to its output and to its log. -/
structure Answer where
  result : Except StartError Output
  passedThrough : List UInt8
  complained : List UInt8

/-- Something that starts programs, with a state of its own and a clock in milliseconds. -/
structure Launcher (σ : Type) where
  launch : Call → σ → Answer × σ
  clock : σ → Nat

/-- How a process ended. -/
inductive Ending where
  | exited (code : UInt8)
  | killed (signal : Nat)
  deriving DecidableEq

/-- The exit code of an ending; a process that was killed has none, and counts as -1. -/
def Ending.exitCode : Ending → Int32
  | .exited code => Int32.ofNat code.toNat
  | .killed _ => -1

/-- A process that has ended, and all that it wrote to its standard output and as complaints. -/
structure Process where
  ending : Ending
  written : List UInt8
  complained : List UInt8
  deriving DecidableEq

/-- The answer about a process: with capture its bytes are read as text, without it they pass
through. Complaints always pass. -/
def Process.answer (p : Process) (capture : Bool) : Answer :=
  if capture then ⟨.ok ⟨p.ending.exitCode, some (Text.Utf8.decode p.written)⟩, [], p.complained⟩
  else ⟨.ok ⟨p.ending.exitCode, none⟩, p.written, p.complained⟩

/-- The launcher of a host that starts processes. A command without a token is refused before the
host is asked. -/
def Launcher.ofProcesses {σ : Type} (start : Call → σ → Except StartError Process × σ)
    (clock : σ → Nat) : Launcher σ where
  launch call s :=
    if call.command.isEmpty then (⟨.error .emptyCommand, [], []⟩, s)
    else
      match start call s with
      | (.error e, s) => (⟨.error e, [], []⟩, s)
      | (.ok process, s) => (process.answer call.capture, s)
  clock := clock

end CiHarness
