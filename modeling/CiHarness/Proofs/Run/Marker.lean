import CiHarness.Proofs.Run.Verdict
import CiHarness.Proofs.Text.Pieces

/-!
# Where the marker is found

An output fails wherever the marker stands in it. When an output comes in parts, the marker may
stand in one part or in the other, or be cut where they meet; it begins as it ends, so parts that
look like a near miss on their own may still make one. It has no line break, so no marker is cut by
the end of a line. The main statement is `fail_iff_marker_found`.
-/
namespace CiHarness

namespace Text

/-- A text stands in two others put together exactly if it stands in one of them or is cut where
they meet. -/
theorem isInfix_append_iff_cut {needle front back : List Char} :
    needle <:+: front ++ back ↔ needle <:+: front ∨ needle <:+: back ∨
      ∃ k, 1 ≤ k ∧ k < needle.length ∧ needle.take k <:+ front ∧ needle.drop k <+: back := by
  rw [List.infix_append_iff_ne_nil]
  refine or_congr_right (or_congr_right ⟨?parts, ?cut⟩)
  case parts =>
    rintro ⟨before, after, hbefore, hafter, rfl, hfront, hback⟩
    have hpos : 0 < before.length := List.length_pos_iff.mpr hbefore
    have hpos' : 0 < after.length := List.length_pos_iff.mpr hafter
    refine ⟨before.length, hpos, ?_, ?_, ?_⟩
    · rw [List.length_append]
      omega
    · rwa [List.take_left]
    · rwa [List.drop_left]
  case cut =>
    rintro ⟨k, hpos, hlt, hfront, hback⟩
    refine ⟨needle.take k, needle.drop k, ?_, ?_, (List.take_append_drop k needle).symm, hfront,
      hback⟩
    · rw [← List.length_pos_iff, List.length_take]
      omega
    · rw [← List.length_pos_iff, List.length_drop]
      omega

theorem isInfix_toList_iff {s t : String} :
    s.toList <:+: t.toList ↔ ∃ before after, t = before ++ s ++ after := by
  constructor
  · rintro ⟨front, back, h⟩
    refine ⟨String.ofList front, String.ofList back, String.toList_inj.mp ?_⟩
    simp [String.toList_append, ← h]
  · rintro ⟨before, after, rfl⟩
    exact ⟨before.toList, after.toList, by simp [String.toList_append]⟩

end Text

namespace Verdict

theorem marker_ne_nil : marker.toList ≠ [] := by decide

theorem isLine_marker : Text.IsLine marker := by decide

/-- **An output fails exactly if the marker stands in it**, whatever is before and after it. An
output in two parts fails exactly if one of the parts does, or if the first one ends with some
characters of the marker and the second one begins with all others. So an output fails line by line,
and no text that is put around a failing one makes it pass. -/
theorem fail_iff_marker_found :
    (∀ s, ofOutput s = .fail ↔ ∃ before after, s = before ++ "~~FAIL~~" ++ after) ∧
    (∀ a b, ofOutput (a ++ b) = .fail ↔ ofOutput a = .fail ∨ ofOutput b = .fail ∨
      ∃ k, 1 ≤ k ∧ k ≤ 7 ∧ "~~FAIL~~".toList.take k <:+ a.toList ∧
        "~~FAIL~~".toList.drop k <+: b.toList) ∧
    (∀ lines, ofOutput (Text.join '\n' lines) = .fail ↔ ∃ line ∈ lines, ofOutput line = .fail) ∧
    ∀ before s after, ofOutput s = .fail → ofOutput (before ++ s ++ after) = .fail := by
  refine ⟨?found, ?parts, ?lines, ?around⟩
  case found =>
    intro s
    rw [ofOutput_eq_fail_iff, Text.isInfix_toList_iff]
    rfl
  case parts =>
    intro a b
    have hlength : marker.toList.length = 8 := by decide
    have hshort : ∀ k, k < marker.toList.length ↔ k ≤ 7 := by omega
    rw [ofOutput_eq_fail_iff, ofOutput_eq_fail_iff, ofOutput_eq_fail_iff, String.toList_append,
      Text.isInfix_append_iff_cut]
    simp only [hshort]
    rfl
  case lines =>
    intro lines
    rw [ofOutput_eq_fail_iff, Text.join, String.toList_ofList,
      Text.isInfix_joinPieces_iff marker_ne_nil isLine_marker]
    simp [ofOutput_eq_fail_iff]
  case around =>
    intro before s after h
    rw [ofOutput_eq_fail_iff] at h ⊢
    rw [String.toList_append, String.toList_append]
    exact h.trans (List.infix_append _ _ _)

/-- Two near misses that make a marker when they are put together, and none in two lines. -/
theorem fail_iff_marker_found_across_cut :
    ofOutput "~~~~FA" = .pass ∧ ofOutput "IL~~~~" = .pass ∧
    ofOutput ("~~~~FA" ++ "IL~~~~") = .fail ∧
      ofOutput (Text.join '\n' ["~~~~FA", "IL~~~~"]) ≠ .fail := by
  obtain ⟨-, hparts, hlines, -⟩ := fail_iff_marker_found
  refine ⟨by decide, by decide, ?_, ?_⟩
  · exact (hparts "~~~~FA" "IL~~~~").mpr (.inr (.inr ⟨4, by decide⟩))
  · rw [ne_eq, hlines]
    decide

end Verdict

end CiHarness
