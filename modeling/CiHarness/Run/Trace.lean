import CiHarness.Log.Entry

/-!
# Traces

Everything that can be seen of a run from outside, in the order in which it happens: the programs
that are asked for, what they write and complain past the harness, what the harness itself prints,
and what it logs. A computation of the harness gives a value, the trace it leaves, and the
launcher's state after it. Printing and logging are taken to succeed: a trace has no event for an
output that is closed or full.
-/
namespace CiHarness

/-- One thing that can be seen from outside. -/
inductive Event where
  | called (call : Call)
  | passedThrough (bytes : List UInt8)
  | complained (bytes : List UInt8)
  | printed (text : String)
  | logged (entry : LogEntry)
  deriving DecidableEq

/-- Events in the order in which they happen. -/
abbrev Trace := List Event

namespace Trace

/-- The programs that were asked for. -/
def calls (t : Trace) : List Call :=
  t.filterMap fun
    | .called call => some call
    | _ => none

/-- What the harness itself printed. -/
def printed (t : Trace) : List String :=
  t.filterMap fun
    | .printed text => some text
    | _ => none

/-- What was logged. -/
def log (t : Trace) : List LogEntry :=
  t.filterMap fun
    | .logged entry => some entry
    | _ => none

/-- What is left if only some of the log is shown. -/
def showing (t : Trace) (isShown : LogEntry → Bool) : Trace :=
  t.filter fun
    | .logged entry => isShown entry
    | _ => true

/-- All bytes on standard output, whoever wrote them. -/
def stdout (t : Trace) : List UInt8 :=
  t.flatMap fun
    | .passedThrough bytes => bytes
    | .printed text => Text.Utf8.encode text
    | _ => []

/-- All bytes on standard error, whoever wrote them, with a line for each entry of the log. -/
def stderr (t : Trace) (line : LogEntry → String) : List UInt8 :=
  t.flatMap fun
    | .complained bytes => bytes
    | .logged entry => Text.Utf8.encode (line entry ++ "\n")
    | _ => []

end Trace

/-- What a computation leaves: a value, a trace and a state. -/
structure Ran (σ α : Type) where
  value : α
  trace : Trace
  state : σ

end CiHarness
