import CiHarness.Json.Reading
import CiHarness.Record.Setup
import CiHarness.Run.Outcome

/-!
# Records of outcomes and reports

How verdicts, outcomes, statuses and reports are written as JSON and read back. A status is tagged
by its name, and in a step report its members stand among those of the report; there the tag may
also be given by its position among the statuses.
-/
namespace CiHarness

namespace Verdict

def toJson (v : Verdict) : Json := .text v.name

/-- The verdict of a name. -/
def ofName? (s : String) : Option Verdict := [Verdict.pass, Verdict.fail].find? (·.name == s)

def ofJson? (v : Json) : Option Verdict := v.asConstant?.bind ofName?

end Verdict

namespace Outcome

def toJson (o : Outcome) : Json :=
  .object [("step", .text o.step), ("exit_code", .integer o.exitCode.toInt),
    ("stdout", .text? o.stdout), ("verdict", o.verdict.elim .null Verdict.toJson)]

def ofJson? (v : Json) : Option Outcome :=
  match v.members? ["step", "exit_code", "stdout", "verdict"] with
  | some [some step, some exitCode, stdout, verdict] => do
    return ⟨← step.asText?, ← exitCode.asInt32?, ← Json.optional? Json.asText? stdout,
      ← Json.optional? Verdict.ofJson? verdict⟩
  | _ => none

end Outcome

namespace Status

/-- The members of a status: its tag and its one field, if it has one. -/
def members (s : Status) : List (String × Json) :=
  match s with
  | .processFailed exitCode =>
    [("status", .text s.name), ("exit_code", .integer exitCode.toInt)]
  | .startFailed error => [("status", .text s.name), ("error", .text error)]
  | .errored error => [("status", .text s.name), ("error", .text error)]
  | _ => [("status", .text s.name)]

def toJson (s : Status) : Json := .object s.members

/-- The tags of the statuses in their order. -/
def tags : List String := ["passed", "process_failed", "content_failed", "start_failed", "errored"]

/-- The status of a tag; the second argument looks up the field of a name. -/
def ofTagged? (tag : String) (field : String → Option Json) : Option Status :=
  if tag = "passed" then some .passed
  else if tag = "process_failed" then
    ((field "exit_code").bind Json.asInt32?).map .processFailed
  else if tag = "content_failed" then some .contentFailed
  else if tag = "start_failed" then ((field "error").bind Json.asText?).map .startFailed
  else if tag = "errored" then ((field "error").bind Json.asText?).map .errored
  else none

/-- The number of fields that go with a tag. -/
def fieldCount (tag : String) : Nat :=
  if tag = "passed" ∨ tag = "content_failed" then 0 else 1

/-- A status is read from an object, or from an array of its tag and its fields. -/
def ofJson? : Json → Option Status
  | .object members =>
    ((Json.member? "status" members).bind Json.asText?).bind fun tag =>
      ofTagged? tag (Json.member? · members)
  | .array (.text tag :: fields) =>
    if fields.length = fieldCount tag then ofTagged? tag fun _ => fields.head? else none
  | _ => none

/-- A tag among the members of a report: a name, or a position among the statuses. -/
def tagAmongMembers? : Json → Option String
  | .text tag => some tag
  | .number i 0 => if 0 ≤ i then tags[i.toNat]? else none
  | _ => none

/-- The status among the members of a report. -/
def ofMembers? (members : List (String × Json)) : Option Status :=
  ((Json.member? "status" members).bind tagAmongMembers?).bind fun tag =>
    ofTagged? tag (Json.member? · members)

end Status

namespace StepReport

def toJson (r : StepReport) : Json :=
  .object ([("name", .text r.name), ("command", r.command.toJson)] ++ r.status.members ++
    [("duration_ms", .natural r.durationMs.toNat)])

/-- A step report is read from an object only. -/
def ofJson? : Json → Option StepReport
  | .object members => do
    let name ← (Json.member? "name" members).bind Json.asText?
    let command ← (Json.member? "command" members).bind Command.ofJson?
    let status ← Status.ofMembers? members
    let durationMs ← (Json.member? "duration_ms" members).bind Json.asUInt64?
    return ⟨name, command, status, durationMs⟩
  | _ => none

end StepReport

namespace RunReport

def toJson (r : RunReport) : Json :=
  .object [("run_id", .text r.runId.toText), ("started_at", .text r.startedAt.toText),
    ("success", .bool r.success), ("steps", .array (r.steps.map StepReport.toJson)),
    ("duration_ms", .natural r.durationMs.toNat)]

def ofJson? (v : Json) : Option RunReport :=
  match v.members? ["run_id", "started_at", "success", "steps", "duration_ms"] with
  | some [some runId, some startedAt, some success, some steps, some durationMs] => do
    return ⟨← runId.asText?.bind RunId.ofText?, ← startedAt.asText?.bind Timestamp.ofText?,
      ← success.asBool?, ← steps.asList? StepReport.ofJson?, ← durationMs.asUInt64?⟩
  | _ => none

end RunReport

end CiHarness
