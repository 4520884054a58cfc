import CiHarness.Proofs.Text.Ascii
import CiHarness.Run.Verdict

/-!
# The verdict on bytes

A verdict is a search for the marker in a text. The text of a child is decoded from its bytes, and
the marker is ASCII, so the verdict can be read off the bytes: it is a failure exactly if the eight
bytes of the marker stand side by side among them.
-/
namespace CiHarness.Verdict

/-- The search looks at every place of the text. -/
theorem occursIn_iff (needle cs : List Char) : occursIn needle cs = true ↔ needle <:+: cs := by
  induction cs with
  | nil => simp [occursIn]
  | cons c cs ih => simp [occursIn, List.infix_cons_iff, ih]

theorem ofOutput_eq_fail_iff (output : String) :
    ofOutput output = .fail ↔ marker.toList <:+: output.toList := by
  rw [← occursIn_iff]
  by_cases h : occursIn marker.toList output.toList = true <;> simp [ofOutput, h]

theorem ofOutput_eq_pass_iff (output : String) :
    ofOutput output = .pass ↔ ¬ marker.toList <:+: output.toList := by
  rw [← ofOutput_eq_fail_iff]
  cases ofOutput output <;> simp

/-- The bytes of the marker. -/
def markerBytes : List UInt8 := [0x7E, 0x7E, 0x46, 0x41, 0x49, 0x4C, 0x7E, 0x7E]

theorem map_charOf_markerBytes : markerBytes.map Text.Utf8.charOf = marker.toList := by decide

/-- The marker is in the decoded text exactly if its bytes are among those decoded. -/
theorem isInfix_decode_marker_iff (bs : List UInt8) :
    marker.toList <:+: (Text.Utf8.decode bs).toList ↔ markerBytes <:+: bs := by
  have hascii : ∀ b ∈ markerBytes, b < 0x80 := by simp [markerBytes]
  rw [← map_charOf_markerBytes]
  exact Text.Utf8.isInfix_decode_iff hascii bs

end CiHarness.Verdict
