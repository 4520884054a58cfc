import CiHarness.Proofs.Text.Ascii

/-!
# Texts and their bytes

A text is found again in its bytes. The first byte of a character opens a range of numbers in which
that of the character lies, and every further byte narrows the range by six bits until only this
number is left; so a reader that is between two characters takes the bytes of the next one for that
character and nothing else. Of bytes that are no text at all, the ASCII ones are still found, and no
others.

The main statements are `decode_encode` and `filter_decode`.
-/
namespace CiHarness.Text.Utf8

/-! ## The bytes of a character -/

/-- The byte for the last six bits of a number. -/
def continuation (n : Nat) : UInt8 := UInt8.ofNat (n % 64 + 128)

/-- The bytes for as many groups of six bits at the end of a number, and one more. -/
def continuations : Nat → Nat → List UInt8
  | 0, n => [continuation n]
  | more + 1, n => continuation (n / 64 ^ (more + 1)) :: continuations more n

@[simp] theorem toNat_continuation (n : Nat) : (continuation n).toNat = n % 64 + 128 := by
  rw [continuation, UInt8.toNat_ofNat']
  omega

/-- The bytes from one to another are some of those that continue a character. -/
structure IsRange (low high : UInt8) : Prop where
  above : 0x80 ≤ low.toNat
  ordered : low.toNat ≤ high.toNat
  below : high.toNat ≤ 0xBF

/-- An open character takes the next bits of any number that it can end with. -/
theorem State.Completes.takes {low high : UInt8} {more value n : Nat} (hrange : IsRange low high)
    (h : State.Completes low high more value n) :
    (low ≤ continuation (n / 64 ^ more) ∧ continuation (n / 64 ^ more) ≤ high) ∧
      value * 64 + ((continuation (n / 64 ^ more)).toNat - 0x80) = n / 64 ^ more := by
  obtain ⟨hleast, hgreatest⟩ := h
  obtain ⟨habove, hordered, hbelow⟩ := hrange
  have hpos : 0 < 64 ^ more := Nat.pow_pos (by decide)
  have hleast' : value * 64 + (low.toNat - 0x80) ≤ n / 64 ^ more :=
    (Nat.le_div_iff_mul_le hpos).mpr hleast
  have hgreatest' : n / 64 ^ more < value * 64 + (high.toNat - 0x80) + 1 :=
    (Nat.div_lt_iff_lt_mul hpos).mpr hgreatest
  rw [UInt8.le_iff_toNat_le, UInt8.le_iff_toNat_le, toNat_continuation]
  omega

/-- After these bits it can still end with that number. -/
theorem State.completes_div (more n : Nat) :
    State.Completes 0x80 0xBF more (n / 64 ^ (more + 1)) n := by
  have hpos : 0 < 64 ^ more := Nat.pow_pos (by decide)
  have hdiv : n / 64 ^ (more + 1) = n / 64 ^ more / 64 := by rw [pow_succ, Nat.div_div_eq_div_mul]
  simp only [State.Completes, hdiv, UInt8.reduceToNat, ← Nat.le_div_iff_mul_le hpos,
    ← Nat.div_lt_iff_lt_mul hpos]
  omega

/-- An open character is read to its end by the bytes of a number that it can end with. -/
theorem readFrom_continuations {low high : UInt8} {more value n : Nat} (hrange : IsRange low high)
    (h : State.Completes low high more value n) (bs : List UInt8) :
    readFrom (.inside low high more value) (continuations more n ++ bs) = Char.ofNat n ::
    readFrom .idle bs := by
  induction more generalizing low high value with
  | zero =>
    obtain ⟨hin, hvalue⟩ := h.takes hrange
    rw [pow_zero, Nat.div_one] at hin hvalue
    simp only [continuations, List.singleton_append, readFrom, step, if_pos hin, hvalue]
  | succ more ih =>
    obtain ⟨hin, hvalue⟩ := h.takes hrange
    have hrest := ih ⟨le_refl _, by decide, le_refl _⟩ (State.completes_div more n)
    simp only [continuations, List.cons_append, readFrom, step, if_pos hin, hvalue, List.nil_append,
      hrest]

/-- A byte opens a character that can end with a number, a few bytes later. -/
def Opens (lead : UInt8) (more n : Nat) : Prop :=
  ∃ low high value, start lead = (.inside low high more value, []) ∧ IsRange low high ∧
    State.Completes low high more value n

theorem opens_two {lead : UInt8} {n : Nat} (hlead : lead.toNat = n / 64 + 0xC0) (hleast : 0x80 ≤ n)
    (hgreatest : n < 0x800) : Opens lead 0 n := by
  simp only [Opens, start, UInt8.lt_iff_toNat_lt, UInt8.reduceToNat, hlead]
  simp (disch := omega) only [if_pos, if_neg]
  refine ⟨_, _, _, rfl, ⟨by decide, by decide, by decide⟩, ?_⟩
  simp only [State.Completes, UInt8.reduceToNat]
  omega

theorem opens_three {lead : UInt8} {n : Nat} (hlead : lead.toNat = n / 4096 + 0xE0)
    (hleast : 0x800 ≤ n) (hgreatest : n < 0x10000) (hvalid : n.isValidChar) : Opens lead 1 n := by
  rw [Nat.isValidChar] at hvalid
  simp only [Opens, start, UInt8.lt_iff_toNat_lt, beq_iff_eq, ← UInt8.toNat_inj, UInt8.reduceToNat,
    hlead]
  -- The first of these bytes leaves out what is written with two, and one of them the surrogates.
  obtain hfirst | hsurrogates | hother : n / 4096 = 0 ∨ n / 4096 = 0xD ∨
      (n / 4096 ≠ 0 ∧ n / 4096 ≠ 0xD) := by omega
  all_goals
    simp (disch := omega) only [if_pos, if_neg]
    refine ⟨_, _, _, rfl, ⟨by decide, by decide, by decide⟩, ?_⟩
    simp only [State.Completes, UInt8.reduceToNat]
    omega

theorem opens_four {lead : UInt8} {n : Nat} (hlead : lead.toNat = n / 262144 + 0xF0)
    (hleast : 0x10000 ≤ n) (hvalid : n.isValidChar) : Opens lead 2 n := by
  rw [Nat.isValidChar] at hvalid
  simp only [Opens, start, UInt8.lt_iff_toNat_lt, beq_iff_eq, ← UInt8.toNat_inj, UInt8.reduceToNat,
    hlead]
  -- The first of these bytes leaves out what is written with three, and the last one what is no
  -- character.
  obtain hfirst | hlast | hother : n / 262144 = 0 ∨ n / 262144 = 4 ∨
      (n / 262144 ≠ 0 ∧ n / 262144 < 4) := by omega
  all_goals
    simp (disch := omega) only [if_pos, if_neg]
    refine ⟨_, _, _, rfl, ⟨by decide, by decide, by decide⟩, ?_⟩
    simp only [State.Completes, UInt8.reduceToNat]
    omega

/-- An ASCII character has one byte. -/
theorem exists_of_ascii {c : Char} (h : c.toNat < 0x80) :
    ∃ b, String.utf8EncodeChar c = [b] ∧ b < 0x80 ∧ charOf b = c := by
  have hbyte : (UInt8.ofNat c.toNat).toNat = c.toNat := by
    rw [UInt8.toNat_ofNat']
    omega
  refine ⟨UInt8.ofNat c.toNat, ?bytes, ?ascii, ?char⟩
  case bytes => exact if_pos (Nat.le_of_lt_succ h)
  case ascii =>
    rw [UInt8.lt_iff_toNat_lt, hbyte]
    exact h
  case char => rw [charOf, hbyte, Char.ofNat_toNat]

/-- A character beyond ASCII is opened by its first byte, and its other bytes are those of its
number. -/
theorem exists_opens {c : Char} (h : ¬ c.toNat < 0x80) :
    ∃ lead more, String.utf8EncodeChar c = lead :: continuations more c.toNat ∧
      Opens lead more c.toNat := by
  have hvalid : c.toNat.isValidChar := c.valid
  have hgreatest : c.toNat < 0x110000 := by
    rw [Nat.isValidChar] at hvalid
    omega
  have hval : c.val.toNat = c.toNat := rfl
  rw [String.utf8EncodeChar, hval]
  split_ifs with hone htwo hthree
  · omega
  · exact ⟨_, 0, rfl, opens_two (by rw [UInt8.toNat_ofNat']; omega) (by omega) (by omega)⟩
  · exact ⟨_, 1, rfl, opens_three (by rw [UInt8.toNat_ofNat']; omega) (by omega) (by omega) hvalid⟩
  · exact ⟨_, 2, rfl, opens_four (by rw [UInt8.toNat_ofNat']; omega) (by omega) hvalid⟩

/-! ## All bytes -/

/-- Between two characters, the bytes of a character are read as that character. -/
theorem readFrom_utf8EncodeChar (c : Char) (bs : List UInt8) :
    readFrom .idle (String.utf8EncodeChar c ++ bs) = c :: readFrom .idle bs := by
  by_cases h : c.toNat < 0x80
  · obtain ⟨b, hbytes, hascii, rfl⟩ := exists_of_ascii h
    rw [hbytes, List.singleton_append, readFrom_of_ascii sound_idle hascii]
    rfl
  · obtain ⟨lead, more, hbytes, low, high, value, hstart, hrange, hcompletes⟩ := exists_opens h
    rw [hbytes, List.cons_append, readFrom, step, hstart, List.nil_append,
      readFrom_continuations hrange hcompletes, Char.ofNat_toNat]

theorem readFrom_flatMap_utf8EncodeChar (cs : List Char) :
    readFrom .idle (cs.flatMap String.utf8EncodeChar) = cs := by
  induction cs with
  | nil => rfl
  | cons c cs ih => rw [List.flatMap_cons, readFrom_utf8EncodeChar, ih]

/-- **Bytes of a text are read as that text.** -/
@[simp] theorem decode_encode (s : String) : decode (encode s) = s := by
  rw [decode, encode, readFrom_flatMap_utf8EncodeChar, String.ofList_toList]

theorem Foreign.filter_eq_nil {cs : List Char} (h : Foreign cs) :
    cs.filter (·.toNat < 0x80) = [] := by
  rw [List.filter_eq_nil_iff]
  intro c hc
  simpa using h c hc

/-- From a sound state, the ASCII characters that are read are the ASCII bytes in their order. -/
theorem filter_readFrom {s : State} (hs : s.Sound) (bs : List UInt8) :
    (readFrom s bs).filter (·.toNat < 0x80) = (bs.filter (· < 0x80)).map charOf := by
  induction bs generalizing s with
  | nil => exact (foreign_finish s).filter_eq_nil
  | cons b bs ih =>
    by_cases hb : b < 0x80
    · have hchar : b.toNat < 0x80 := UInt8.lt_iff_toNat_lt.mp hb
      rw [readFrom_of_ascii hs hb, List.filter_append, (foreign_finish s).filter_eq_nil,
        List.nil_append,
        List.filter_cons_of_pos (by simpa using hchar), List.filter_cons_of_pos (by simpa using hb),
        List.map_cons,
        ih sound_idle]
    · obtain ⟨hnext, hout, -⟩ := keepsOut_step hs hb
      rw [readFrom, List.filter_append, hout.filter_eq_nil, List.nil_append,
        List.filter_cons_of_neg (by simpa using hb), ih hnext]

/-- **The ASCII characters of what is read are the ASCII bytes**, in the same order, whatever is
between them. -/
theorem filter_decode (bs : List UInt8) :
    ((decode bs).toList.filter (·.toNat < 0x80)).map Char.toNat =
      (bs.filter (· < 0x80)).map UInt8.toNat := by
  rw [decode, String.toList_ofList, filter_readFrom sound_idle, List.map_map]
  exact List.map_congr_left fun b _ => toNat_charOf b

end CiHarness.Text.Utf8
