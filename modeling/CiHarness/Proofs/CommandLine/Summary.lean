import CiHarness.CommandLine.Summary
import CiHarness.Proofs.Json.Printer
import CiHarness.Proofs.Record.Report
import CiHarness.Proofs.Run.Sequence
import CiHarness.Proofs.Text.Pieces

/-!
# What a summary tells

A summary is made from a report alone, for a reader or as JSON. For a reader it has one line for
each step between lines that are always there, and since no part of it breaks a line, the lines can
be told apart in the text. As JSON the text can be read back, and so can the steps in it.
-/
namespace CiHarness

/-- Digits and hyphens are all that an identifier is written with. -/
theorem RunId.isLine_toText (id : RunId) : Text.IsLine id.toText := by
  have hdigits : '\n' ∉ id.digits.map digitChar := by
    have hdigit : ∀ d : Fin 16, digitChar d ≠ '\n' := by decide
    simpa using fun d _ => hdigit d
  have htake (m n : Nat) : '\n' ∉ ((id.digits.map digitChar).drop m).take n := fun h =>
    hdigits (List.mem_of_mem_drop (List.mem_of_mem_take h))
  have hfirst := htake 0 8
  have hlast : '\n' ∉ (id.digits.map digitChar).drop 20 := fun h => hdigits (List.mem_of_mem_drop h)
  rw [List.drop_zero] at hfirst
  simp only [Text.IsLine, toText, String.toList_ofList, hyphenated, List.mem_append, List.mem_cons]
  simp [hfirst, htake, hlast]

namespace CommandLine.Summary

@[simp] theorem isLine_mark (passed : Bool) :
    Text.IsLine (mark passed) := by cases passed <;> decide

theorem isLine_statusLine (r : RunReport) : Text.IsLine (statusLine r) := by
  rw [statusLine]
  cases r.success <;> decide

theorem isLine_stepLine {step : StepReport} (h : Text.IsLine step.name) :
    Text.IsLine (stepLine step) := by
  have hopen : Text.IsLine "  " ∧ Text.IsLine " " ∧ Text.IsLine " (" ∧ Text.IsLine "ms)" := by
    decide
  simp [stepLine, h, hopen]

theorem isLine_countLine (r : RunReport) : Text.IsLine (countLine r) := by
  have hwords : Text.IsLine "Summary: " ∧ Text.IsLine "/" ∧ Text.IsLine " steps passed" := by decide
  simp [countLine, hwords]

/-- No part of a summary breaks a line, unless a step does by its name. -/
theorem isLine_of_mem_lines {r : RunReport} (h : ∀ step ∈ r.steps, Text.IsLine step.name)
    {line : String} (hline : line ∈ lines r) : Text.IsLine line := by
  have hwords : Text.IsLine "" ∧ Text.IsLine "Run ID: " ∧ Text.IsLine "Duration: " ∧
      Text.IsLine "ms" := by decide
  simp only [lines, List.mem_append, List.mem_cons, List.not_mem_nil, or_false, List.mem_map]
    at hline
  obtain ((rfl | rfl | rfl | rfl | rfl) | ⟨step, hstep, rfl⟩) | rfl | rfl := hline
  · exact hwords.1
  · exact Text.isLine_append.mpr ⟨hwords.2.1, r.runId.isLine_toText⟩
  · exact isLine_statusLine r
  · simp [hwords]
  · exact hwords.1
  · exact isLine_stepLine (h step hstep)
  · exact hwords.1
  · exact isLine_countLine r

/-- The text of a summary is cut into its lines again. -/
theorem split_text {r : RunReport} (h : ∀ step ∈ r.steps, Text.IsLine step.name) :
    Text.split '\n' (text r) = lines r ++ [""] :=
  Text.split_join_lines fun _ hline => isLine_of_mem_lines h hline

/-- The text of a summary as JSON says the whole report. -/
theorem ofText?_json (r : RunReport) : Json.ofText? (json r) = some r.toJson :=
  Json.ofText?_pretty_append_newLine r.toJson

/-- The members of a report: its success, and its steps, each of which can be read back. -/
theorem members_toJson (r : RunReport) :
    ∃ members items, r.toJson = .object members ∧
      Json.member? "success" members = some (.bool r.success) ∧
      Json.member? "steps" members = some (.array items) ∧
      items.map StepReport.ofJson? = r.steps.map some := by
  refine ⟨_, r.steps.map StepReport.toJson, rfl, by simp, by simp, ?_⟩
  rw [List.map_map]
  exact List.map_congr_left fun step _ => step.ofJson?_toJson

end CommandLine.Summary

end CiHarness
