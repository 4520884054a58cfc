import CiHarness.Proofs.Text.Blank
import CiHarness.Run.Timestamp
import Mathlib.Algebra.Group.Nat.Defs

/-!
# Timestamps read back

A timestamp of the calendar is read back as it was written. Every number in its written form has the
digits it is read with and a mark behind it, so each part is read by itself, and what is left is the
next part. The offset is that of UTC and moves nothing.
-/
namespace CiHarness.Timestamp

/-- A moment of the calendar: a date, a time of the day, which may be in a leap second, and
nanoseconds. -/
structure IsCivil (t : Timestamp) : Prop where
  date_valid : t.date.isValid = true
  hour_lt : t.hour < 24
  minute_lt : t.minute < 60
  second_le : t.second ≤ 60
  nanos_lt : t.nanos < 1000000000

/-! ## Numbers -/

/-- The code points of digits. -/
theorem toNat_of_isDigit {c : Char} (h : c.isDigit = true) : 48 ≤ c.toNat ∧ c.toNat ≤ 57 := by
  simpa [Char.isDigit, UInt32.le_iff_toNat_le] using h

theorem digit?_of_isDigit {c : Char} (h : c.isDigit = true) : digit? c = some (c.toNat - 48) := by
  rw [digit?, if_pos (toNat_of_isDigit h)]

/-- Digits are no blanks. -/
theorem isBlank_of_isDigit {c : Char} (h : c.isDigit = true) : Text.isBlank c = false := by
  have hrange := toNat_of_isDigit h
  exact Text.isBlank_of_visible (by omega) (by omega)

/-- Digits up to a mark are taken as their value. -/
theorem takeDigits_append {ds : List Char} (hds : ∀ d ∈ ds, d.isDigit = true) {width : Nat}
    (hwidth : ds.length ≤ width) (value : Nat) {mark : Char} (hmark : digit? mark = none)
    (rest : List Char) :
    takeDigits width value (ds ++ mark :: rest) = (Nat.ofDigitChars 10 ds value, mark :: rest) := by
  induction ds generalizing width value with
  | nil =>
    cases width with
    | zero => rfl
    | succ width => simp [takeDigits, hmark]
  | cons d ds ih =>
    cases width with
    | zero => simp at hwidth
    | succ width =>
      have hd := digit?_of_isDigit (hds d (by simp))
      have hrest := ih (fun c hc => hds c (by simp [hc])) (by simpa using hwidth)
        (value * 10 + (d.toNat - 48))
      rw [List.cons_append, takeDigits, hd, Nat.ofDigitChars_cons, Nat.mul_comm 10 value]
      exact hrest

theorem isDigit_of_mem_padded {width n : Nat} {c : Char} (h : c ∈ padded width n) :
    c.isDigit = true := by
  rw [padded, List.mem_append] at h
  obtain hzero | hdigit := h
  · rw [List.eq_of_mem_replicate hzero]
    rfl
  · exact Nat.isDigit_of_mem_toDigits (by omega) (by omega) hdigit

theorem ofDigitChars_padded (width n : Nat) : Nat.ofDigitChars 10 (padded width n) 0 = n := by
  rw [padded, Nat.ofDigitChars_append, Nat.ofDigitChars_replicate_zero, Nat.mul_zero,
    Nat.ofDigitChars_ten_toDigits]

/-- A number that fits its width has exactly that many digits. -/
theorem length_padded {width n : Nat} (hwidth : 0 < width) (h : n < 10 ^ width) :
    (padded width n).length = width := by
  have hlength : (Nat.toDigits 10 n).length ≤ width :=
    (Nat.length_toDigits_le_iff (by omega) hwidth).mpr h
  rw [padded, List.length_append, List.length_replicate]
  omega

/-- A written number begins with a digit. -/
theorem exists_padded_cons (width n : Nat) :
    ∃ c cs, padded width n = c :: cs ∧ c.isDigit = true := by
  cases h : padded width n with
  | nil => simp [padded, Nat.toDigits_ne_nil] at h
  | cons c cs => exact ⟨c, cs, rfl, isDigit_of_mem_padded (h ▸ List.mem_cons_self)⟩

@[simp] theorem dropBlanks_padded_append (width n : Nat) (rest : List Char) :
    Text.dropBlanks (padded width n ++ rest) = padded width n ++ rest := by
  obtain ⟨c, cs, hcs, hc⟩ := exists_padded_cons width n
  rw [hcs, List.cons_append, Text.dropBlanks_cons (isBlank_of_isDigit hc)]

/-- A number is read up to the mark behind it. -/
theorem number?_padded_append {digits width n : Nat} (h : (padded width n).length ≤ digits)
    {mark : Char} (hmark : digit? mark = none) (rest : List Char) :
    number? digits (padded width n ++ mark :: rest) = some (n, mark :: rest) := by
  have htaken := takeDigits_append (fun d => isDigit_of_mem_padded) h 0 hmark rest
  obtain ⟨c, cs, hcs, hc⟩ := exists_padded_cons width n
  rw [ofDigitChars_padded] at htaken
  rw [hcs, List.cons_append] at htaken ⊢
  simp only [number?, digit?_of_isDigit hc, Option.isSome_some, if_true, htaken]

/-! ## Parts -/

/-- A part of a date or of a time has two digits. -/
theorem field?_padded_append {low high n : Nat} (hlow : low ≤ n) (hhigh : n ≤ high) (hn : n < 100)
    {mark : Char} (hmark : digit? mark = none) (rest : List Char) :
    field? low high (padded 2 n ++ mark :: rest) = some (n, mark :: rest) := by
  have hlength : (padded 2 n).length ≤ 2 := Nat.le_of_eq (length_padded (by omega) (by omega))
  rw [field?, dropBlanks_padded_append, number?_padded_append hlength hmark, Option.bind_some]
  exact if_pos ⟨hlow, hhigh⟩

theorem mark?_cons {mark : Char} (h : Text.isBlank mark = false) (rest : List Char) :
    mark? mark (mark :: rest) = some rest := by
  rw [mark?, Text.dropBlanks_cons h]
  simp

/-- A year is read with its sign, or without one from four digits. -/
theorem year?_writeYear_append (year : Int) (rest : List Char) :
    year? (writeYear year ++ '-' :: rest) = some (year, '-' :: rest) := by
  rw [writeYear]
  split
  · next h =>
    have hlength : (padded 4 year.toNat).length ≤ 4 :=
      Nat.le_of_eq (length_padded (by omega) (by omega))
    have hnumber := number?_padded_append hlength (by decide : digit? '-' = none) rest
    obtain ⟨c, cs, hcs, hc⟩ := exists_padded_cons 4 year.toNat
    have hminus : c ≠ '-' := by rintro rfl; revert hc; decide
    have hplus : c ≠ '+' := by rintro rfl; revert hc; decide
    rw [year?, dropBlanks_padded_append]
    rw [hcs, List.cons_append] at hnumber ⊢
    simp [hminus, hplus, hnumber, Int.max_eq_left h.1]
  · next h =>
    have hnumber : number? (padded 4 year.natAbs ++ '-' :: rest).length
        (padded 4 year.natAbs ++ '-' :: rest) =
        some (year.natAbs, '-' :: rest) := number?_padded_append (by simp) (by decide) rest
    rw [List.cons_append]
    split
    · next hneg =>
      have hvalue : -(year.natAbs : Int) = year := by omega
      rw [year?, Text.dropBlanks_cons (by decide)]
      simp only [hnumber, Option.map_some, hvalue]
    · next hneg =>
      have hvalue : (year.natAbs : Int) = year := by omega
      rw [year?, Text.dropBlanks_cons (by decide)]
      simp only [hnumber, Option.map_some, hvalue]

/-- Decimals are read as the nanoseconds they stand for. -/
theorem decimals?_padded_append {places k : Nat} (hpos : 0 < places) (hplaces : places ≤ 9)
    (hk : k < 10 ^ places) {mark : Char} (hmark : digit? mark = none) (rest : List Char) :
    decimals? ('.' :: (padded places k ++ mark :: rest)) =
      some (k * 10 ^ (9 - places), mark :: rest) := by
  have hlength : (padded places k).length = places := length_padded hpos hk
  have hnumber := number?_padded_append (hlength ▸ hplaces) hmark rest
  simp [decimals?, hnumber, hlength, hmark]

theorem decimals?_writeDecimals_append {nanos : Nat} (h : nanos < 1000000000) {mark : Char}
    (hdot : mark ≠ '.') (hmark : digit? mark = none) (rest : List Char) :
    decimals? (writeDecimals nanos ++ mark :: rest) = some (nanos, mark :: rest) := by
  rw [writeDecimals]
  split
  · next hzero => simp [decimals?, hdot, hzero]
  · split
    · next hmillis =>
      have hvalue : nanos / 1000000 * 10 ^ (9 - 3) = nanos := by omega
      rw [List.cons_append, decimals?_padded_append (by omega) (by omega) (by omega) hmark, hvalue]
    · split
      · next hmicros =>
        have hvalue : nanos / 1000 * 10 ^ (9 - 6) = nanos := by omega
        rw [List.cons_append, decimals?_padded_append (by omega) (by omega) (by omega) hmark,
          hvalue]
      · have hvalue : nanos * 10 ^ (9 - 9) = nanos := by omega
        rw [List.cons_append, decimals?_padded_append (by omega) (by omega) h hmark, hvalue]

/-- At no offset a time stays as it is. -/
theorem toUtc?_zero {t : Timestamp} (h : t.IsCivil) :
    toUtc? t.date t.hour t.minute t.second t.nanos 0 = some t := by
  obtain ⟨hdate, hhour, hminute, -, -⟩ := h
  have hminutes : ((t.hour * 60 + t.minute : Nat) : Int) - 0 = (t.hour * 60 + t.minute : Nat) := by
    omega
  have hday : ¬ (1440 : Int) ≤ (t.hour * 60 + t.minute : Nat) ∧
      ¬ ((t.hour * 60 + t.minute : Nat) : Int) < 0 := by
    omega
  have hhours : ((((t.hour * 60 + t.minute : Nat) : Int) % 1440).toNat) / 60 = t.hour := by omega
  have hrest : ((((t.hour * 60 + t.minute : Nat) : Int) % 1440).toNat) % 60 = t.minute := by omega
  simp only [toUtc?, hminutes, if_neg hday.1, if_neg hday.2, hhours, hrest, hdate, if_true]

/-- Seconds end at the point of their decimals or, without decimals, at the letter of the zone. -/
theorem exists_writeDecimals_append (nanos : Nat) :
    ∃ mark rest, writeDecimals nanos ++ ['Z'] = mark :: rest ∧ digit? mark = none := by
  rw [writeDecimals]
  split
  · exact ⟨'Z', [], rfl, by decide⟩
  · split
    · exact ⟨'.', _, rfl, by decide⟩
    · split
      · exact ⟨'.', _, rfl, by decide⟩
      · exact ⟨'.', _, rfl, by decide⟩

/-- The months and days of the calendar are those that are read. -/
theorem month_day_le_of_isValid {d : Date} (h : d.isValid = true) :
    1 ≤ d.month ∧ d.month ≤ 12 ∧ 1 ≤ d.day ∧ d.day ≤ 31 := by
  have hdays : Date.daysIn d.year d.month ≤ 31 := by
    rw [Date.daysIn]
    split
    · split <;> omega
    · split <;> omega
  simp only [Date.isValid, Bool.and_eq_true, decide_eq_true_eq] at h
  omega

/-- **A timestamp of the calendar is read back as it was written.** -/
theorem ofText?_toText {t : Timestamp} (h : t.IsCivil) : ofText? t.toText = some t := by
  obtain ⟨hmonth, hmonth', hday, hday'⟩ := month_day_le_of_isValid h.date_valid
  obtain ⟨mark, rest, hdecimals, hmark⟩ := exists_writeDecimals_append t.nanos
  have hnanos : decimals? (mark :: rest) = some (t.nanos, ['Z']) :=
    hdecimals ▸ decimals?_writeDecimals_append h.nanos_lt (by decide) (by decide) []
  have hhour : t.hour ≤ 23 := Nat.le_of_lt_succ h.hour_lt
  have hminute : t.minute ≤ 59 := Nat.le_of_lt_succ h.minute_lt
  have hsecond := h.second_le
  have hzone : offset? ['Z'] = some (0, []) := by decide
  have hletter : isLetter 'T' 'T' = true := by decide
  rw [ofText?, toText, String.toList_ofList, ofChars?, toChars, year?_writeYear_append, hdecimals]
  -- Each part is read up to the mark behind it: first the date, then the time, then decimals and
  -- zone.
  dsimp only [Option.bind_eq_bind]
  rw [Option.bind_some, mark?_cons (by decide), Option.bind_some,
    field?_padded_append hmonth hmonth' (by omega) (by decide), Option.bind_some,
    mark?_cons (by decide),
    Option.bind_some, field?_padded_append hday hday' (by omega) (by decide), Option.bind_some]
  dsimp only
  rw [hletter, Bool.true_or, if_pos rfl, Option.bind_some,
    field?_padded_append (Nat.zero_le _) hhour (by omega) (by decide), Option.bind_some,
    mark?_cons (by decide),
    Option.bind_some, field?_padded_append (Nat.zero_le _) hminute (by omega) (by decide),
    Option.bind_some,
    mark?_cons (by decide), Option.bind_some,
    field?_padded_append (Nat.zero_le _) hsecond (by omega) hmark,
    Option.bind_some]
  rw [hnanos, Option.bind_some, hzone, Option.bind_some, h.date_valid, toUtc?_zero h]
  rfl

end CiHarness.Timestamp
