/-!
# Verdicts

A simulator ends with success even when a test bench has found a fault; the test bench then prints a
marker. The verdict on an output is therefore whether the marker stands in it, anywhere and any
number of times.
-/
namespace CiHarness

/-- What the output of a simulation says. -/
inductive Verdict where
  | pass
  | fail
  deriving DecidableEq

namespace Verdict

def isPass : Verdict → Bool
  | .pass => true
  | .fail => false

/-- The name of a verdict. -/
def name : Verdict → String
  | .pass => "pass"
  | .fail => "fail"

/-- What a test bench prints when it has found a fault. -/
def marker : String := "~~FAIL~~"

/-- Whether a text stands in another one. -/
def occursIn (needle : List Char) : List Char → Bool
  | [] => needle.isEmpty
  | c :: cs => needle.isPrefixOf (c :: cs) || occursIn needle cs

/-- The verdict on an output. -/
def ofOutput (output : String) : Verdict :=
  if occursIn marker.toList output.toList then .fail else .pass

end Verdict

end CiHarness
