import CiHarness.Record.Report
import CiHarness.Json.Printer

/-!
# Summaries

What the program prints at the end of a run: lines for a reader, or the report as JSON. The summary
names every step in the order in which the steps ran and marks those that passed.
-/
namespace CiHarness.CommandLine

namespace Summary

/-- The mark of a passed step, or of one that did not pass. -/
def mark (passed : Bool) : String := if passed then "✓" else "✗"

/-- The line of a run's status. -/
def statusLine (r : RunReport) : String :=
  "Status: " ++ mark r.success ++ if r.success then " PASSED" else " FAILED"

/-- The line of a step. -/
def stepLine (s : StepReport) : String :=
  "  " ++ mark s.passed ++ " " ++ s.name ++ " (" ++ toString s.durationMs.toNat ++ "ms)"

/-- The line of the counts. -/
def countLine (r : RunReport) : String :=
  "Summary: " ++ toString r.passedCount ++ "/" ++ toString r.steps.length ++ " steps passed"

/-- The lines of a summary. -/
def lines (r : RunReport) : List String :=
  ["", "Run ID: " ++ r.runId.toText, statusLine r,
    "Duration: " ++ toString r.durationMs.toNat ++ "ms", ""] ++
    r.steps.map stepLine ++ ["", countLine r]

/-- A summary, with a new line after each line. -/
def text (r : RunReport) : String := String.join ((lines r).map (· ++ "\n"))

/-- A report as JSON, with a new line after it. -/
def json (r : RunReport) : String := r.toJson.pretty ++ "\n"

end Summary

end CiHarness.CommandLine
