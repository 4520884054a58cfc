/-!
# Log levels

Five levels, from errors to the finest traces. A filter is a bound on them, from 0, which lets
nothing pass, to 5.
-/
namespace CiHarness

/-- How grave a log entry is. -/
inductive Level where
  | error
  | warn
  | info
  | debug
  | trace
  deriving DecidableEq

namespace Level

/-- The rank of a level, from 1 for errors on. -/
def rank : Level → Nat
  | .error => 1
  | .warn => 2
  | .info => 3
  | .debug => 4
  | .trace => 5

/-- The name of a level as it stands in a log line. -/
def name : Level → String
  | .error => "ERROR"
  | .warn => "WARN"
  | .info => "INFO"
  | .debug => "DEBUG"
  | .trace => "TRACE"

end Level

end CiHarness
