import CiHarness.Proofs.Record.Setup
import CiHarness.Proofs.Run.RunId
import CiHarness.Proofs.Run.Timestamp
import CiHarness.Record.Report

/-!
# Reports read back

A step report is written with the members of its status among its own, and all of them have
different names. So each is found again by its name, and reading what was written gives the same
report. The main statement is `reports_read_back`.
-/
namespace CiHarness

namespace Verdict

@[simp] theorem ofJson?_toJson (v : Verdict) : Verdict.ofJson? v.toJson = some v := by
  cases v <;> decide

@[simp] theorem unambiguous_toJson (v : Verdict) : v.toJson.Unambiguous := .text v.name

end Verdict

namespace Outcome

/-- An outcome is read back with its text and its verdict as they were, there or not. -/
@[simp] theorem ofJson?_toJson (o : Outcome) : Outcome.ofJson? o.toJson = some o := by
  have hverdict : Json.optional? Verdict.ofJson? (some (o.verdict.elim .null Verdict.toJson)) =
      some o.verdict :=
    Json.optional?_elim Verdict.ofJson?_toJson rfl o.verdict
  simp [Outcome.ofJson?, Outcome.toJson, hverdict]

@[simp] theorem unambiguous_toJson (o : Outcome) : o.toJson.Unambiguous := by
  have hverdict : (o.verdict.elim .null Verdict.toJson).Unambiguous :=
    Json.unambiguous_elim Verdict.unambiguous_toJson o.verdict
  simp [Outcome.toJson, hverdict]

end Outcome

namespace Status

/-- A status by itself is read by its tag and the name of its one field. -/
@[simp] theorem ofJson?_toJson (s : Status) : Status.ofJson? s.toJson = some s := by
  cases s <;> simp [Status.ofJson?, toJson, members, name, ofTagged?]

@[simp] theorem unambiguous_toJson (s : Status) : s.toJson.Unambiguous := by
  cases s <;> simp [toJson, members]

theorem ofMembers?_members_append (s : Status) (back : List (String × Json)) :
    ofMembers? (s.members ++ back) = some s := by
  cases s <;> simp [ofMembers?, ofTagged?, members, tagAmongMembers?, name]

/-- A status is looked for by three names, and members of other names before it do not matter. -/
theorem ofMembers?_append_of_not_mem {front : List (String × Json)}
    (h : ∀ name ∈ ["status", "exit_code", "error"], name ∉ front.map (·.1))
    (back : List (String × Json)) :
    ofMembers? (front ++ back) = ofMembers? back := by
  have hstatus := Json.member?_append_of_not_mem (h "status" (by simp)) back
  have hcode := Json.member?_append_of_not_mem (h "exit_code" (by simp)) back
  have herror := Json.member?_append_of_not_mem (h "error" (by simp)) back
  simp only [ofMembers?, ofTagged?, hstatus, hcode, herror]

end Status

namespace StepReport

/-- A report is read from an object as soon as each of its four parts is found there. -/
theorem ofJson?_of_members {members : List (String × Json)} {name command durationMs : Json}
    {r : StepReport} (hname : Json.member? "name" members = some name)
    (hname' : name.asText? = some r.name)
    (hcommand : Json.member? "command" members = some command)
    (hcommand' : Command.ofJson? command = some r.command)
    (hstatus : Status.ofMembers? members = some r.status)
    (hduration : Json.member? "duration_ms" members = some durationMs)
    (hduration' : durationMs.asUInt64? = some r.durationMs) :
    StepReport.ofJson? (.object members) = some r := by
  simp only [StepReport.ofJson?, hname, hcommand, hstatus, hduration, Option.bind_some, hname',
    hcommand', hduration']
  rfl

/-- **A step report is read back as it was written.** -/
@[simp] theorem ofJson?_toJson (r : StepReport) : StepReport.ofJson? r.toJson = some r := by
  let front : List (String × Json) := [("name", .text r.name), ("command", r.command.toJson)]
  let back : List (String × Json) := [("duration_ms", .natural r.durationMs.toNat)]
  have hstatus : Status.ofMembers? (front ++ (r.status.members ++ back)) = some r.status := by
    rw [Status.ofMembers?_append_of_not_mem (by simp [front]), r.status.ofMembers?_members_append]
  have hduration : Json.member? "duration_ms" (front ++ (r.status.members ++ back)) =
      some (.natural r.durationMs.toNat) := by
    rw [Json.member?_append_of_not_mem (by simp [front]),
      Json.member?_append_of_not_mem (by cases r.status <;> simp [Status.members])]
    simp [back]
  rw [StepReport.toJson, List.append_assoc]
  exact ofJson?_of_members (by simp) (Json.asText?_text _) (by simp) (Command.ofJson?_toJson _)
    hstatus hduration (Json.asUInt64?_natural _)

/-- No member of a status has the name of one of the report's own. -/
@[simp] theorem unambiguous_toJson (r : StepReport) : r.toJson.Unambiguous := by
  cases h : r.status <;> simp [StepReport.toJson, Status.members, h]

end StepReport

namespace RunReport

/-- A report of a run is read back if its start is a moment of the calendar. -/
theorem ofJson?_toJson {r : RunReport} (h : r.startedAt.IsCivil) :
    RunReport.ofJson? r.toJson = some r := by
  have hsteps : (Json.array (r.steps.map StepReport.toJson)).asList? StepReport.ofJson? =
      some r.steps :=
    Json.asList?_array_map StepReport.ofJson?_toJson r.steps
  simp [RunReport.ofJson?, RunReport.toJson, hsteps, Timestamp.ofText?_toText h]

@[simp] theorem unambiguous_toJson (r : RunReport) : r.toJson.Unambiguous := by
  simp [RunReport.toJson]

/-- **Reports are read back as they were written.** The report of a run that started at a moment of
the calendar is read back whatever its other parts are, and so counts as many steps that passed and
that failed; and so is the report of any step, in which the members of the status stand among the
others, and every status and every outcome by itself. No two members of an object that is written
have the same name. -/
theorem reports_read_back :
    (∀ r : RunReport, r.startedAt.IsCivil → r.toJson.Unambiguous ∧
      ∃ back, RunReport.ofJson? r.toJson = some back ∧ back = r ∧
        back.passedCount = r.passedCount ∧ back.failedCount = r.failedCount) ∧
    (∀ r : StepReport, r.toJson.Unambiguous ∧ StepReport.ofJson? r.toJson = some r) ∧
    (∀ s : Status, s.toJson.Unambiguous ∧ Status.ofJson? s.toJson = some s) ∧
    ∀ o : Outcome, o.toJson.Unambiguous ∧ Outcome.ofJson? o.toJson = some o := by
  refine ⟨?run, ?step, ?status, ?outcome⟩
  case run => exact fun r h => ⟨r.unambiguous_toJson, r, ofJson?_toJson h, rfl, rfl, rfl⟩
  case step => exact fun r => ⟨r.unambiguous_toJson, r.ofJson?_toJson⟩
  case status => exact fun s => ⟨s.unambiguous_toJson, s.ofJson?_toJson⟩
  case outcome => exact fun o => ⟨o.unambiguous_toJson, o.ofJson?_toJson⟩

/-- A report with the lowest exit code, the longest durations and the last moment of a leap day. -/
def atBounds : RunReport where
  runId := .zero
  startedAt := ⟨⟨0, 2, 29⟩, 23, 59, 59, 999999999⟩
  success := false
  steps := [⟨"sim:fsm", ⟨[]⟩, .processFailed (-2147483648), 18446744073709551615⟩,
    ⟨"", ⟨["a b", ""]⟩, .startFailed "\"", 0⟩]
  durationMs := 18446744073709551615

theorem reports_read_back_at_bounds :
    atBounds.startedAt.IsCivil ∧ RunReport.ofJson? atBounds.toJson = some atBounds ∧
    atBounds.failedCount = 2 := by
  have h : atBounds.startedAt.IsCivil := ⟨by decide, by decide, by decide, by decide, by decide⟩
  obtain ⟨-, back, hback, heq, -, -⟩ := reports_read_back.1 atBounds h
  rw [heq] at hback
  exact ⟨h, hback, by decide⟩

end RunReport

end CiHarness
