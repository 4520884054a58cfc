import CiHarness.Run.RunId

/-!
# Run identifiers read back

The written form of an identifier is its thirty-two digits in five groups with hyphens between them.
It is told from the other forms by its length, and without the hyphens it is the digits again.
-/
namespace CiHarness.RunId

@[simp] theorem digit?_digitChar : ∀ d : Fin 16, digit? (digitChar d) = some d := by decide

/-- Written digits are read one by one. -/
theorem mapM_digit?_map (ds : List (Fin 16)) : (ds.map digitChar).mapM digit? = some ds := by
  induction ds with
  | nil => rfl
  | cons d ds ih => rw [List.map_cons, List.mapM_cons, digit?_digitChar, ih]; rfl

theorem ofPlain?_digits (id : RunId) : ofPlain? (id.digits.map digitChar) = some id := by
  rw [ofPlain?, mapM_digit?_map, Option.bind_some, ofDigits?, dif_pos id.length_eq]

/-- Five groups with hyphens between them are read as one row of digits. -/
theorem ofHyphenated?_groups {a b c d : List Char} (ha : a.length = 8) (hb : b.length = 4)
    (hc : c.length = 4) (hd : d.length = 4) (e : List Char) :
    ofHyphenated? (a ++ '-' :: (b ++ '-' :: (c ++ '-' :: (d ++ '-' :: e)))) =
      ofPlain? (a ++ (b ++ (c ++ (d ++ e)))) := by
  simp [ofHyphenated?, List.getElem?_append, List.drop_append, List.drop_eq_nil_of_le, ha, hb, hc,
    hd]

/-- A group of a row and what follows it. -/
theorem take_drop_append_drop (cs : List Char) (n m : Nat) :
    (cs.drop n).take m ++ cs.drop (n + m) = cs.drop n := by
  rw [← List.drop_drop, List.take_append_drop]

theorem ofHyphenated?_hyphenated (id : RunId) : ofHyphenated? id.hyphenated = some id := by
  have hlength : (id.digits.map digitChar).length = 32 := by rw [List.length_map, id.length_eq]
  rw [hyphenated, ofHyphenated?_groups (by simp [hlength]) (by simp [hlength]) (by simp [hlength])
    (by simp [hlength]), take_drop_append_drop _ 16 4, take_drop_append_drop _ 12 4,
    take_drop_append_drop _ 8 4, List.take_append_drop, ofPlain?_digits]

/-- **An identifier is read back as it was written.** -/
@[simp] theorem ofText?_toText (id : RunId) : ofText? id.toText = some id := by
  have hlength : id.hyphenated.length = 36 := by simp [hyphenated, id.length_eq]
  rw [ofText?, toText, String.toList_ofList, ofChars?, if_neg (by simp [hlength]), if_pos hlength,
    ofHyphenated?_hyphenated]

end CiHarness.RunId
