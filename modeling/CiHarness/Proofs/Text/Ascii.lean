import CiHarness.Text.Utf8
import Mathlib.Algebra.Order.Ring.Nat
import Mathlib.Data.List.Infix
import Mathlib.Tactic.GCongr
import Mathlib.Tactic.Ring

/-!
# ASCII in decoded bytes

The reader of bytes replaces what is ill-formed, and yet ASCII goes through it untouched: an ASCII
byte ends whatever is open before it and is written as itself, and no other byte writes an ASCII
character. The second half needs an invariant of the reader: whatever may still complete an open
character, the number it ends with belongs to a character and lies beyond ASCII.

The main statement is `isInfix_decode_iff`: an ASCII text stands in the decoded text exactly where
its bytes stand among the bytes that were decoded.
-/
namespace CiHarness.Text.Utf8

/-- The character of a byte. -/
def charOf (b : UInt8) : Char := Char.ofNat b.toNat

theorem toNat_ofNat_of_isValidChar {n : Nat} (h : n.isValidChar) : (Char.ofNat n).toNat = n := by
  rw [Char.ofNat, dif_pos h]
  rfl

@[simp] theorem toNat_charOf (b : UInt8) : (charOf b).toNat = b.toNat := by
  have hb : b.toNat < 256 := b.toNat_lt
  exact toNat_ofNat_of_isValidChar (Or.inl (by omega))

theorem charOf_injective : Function.Injective charOf := by
  intro a b h
  have hn : (charOf a).toNat = (charOf b).toNat := by rw [h]
  simpa [UInt8.toNat_inj] using hn

/-- The numbers that an open character can still end with. -/
def State.Completes (low high : UInt8) (more value n : Nat) : Prop :=
  (value * 64 + (low.toNat - 0x80)) * 64 ^ more ≤ n ∧
    n < (value * 64 + (high.toNat - 0x80) + 1) * 64 ^ more

/-- The reader is sound if an open character takes continuation bytes only, and can only end as a
character beyond ASCII. -/
def State.Sound : State → Prop
  | .idle => True
  | .inside low high more value =>
    0x80 ≤ low.toNat ∧ high.toNat ≤ 0xBF ∧
      ∀ n, State.Completes low high more value n → n.isValidChar ∧ 0x80 ≤ n

theorem sound_idle : State.idle.Sound := trivial

/-- Characters that are not ASCII. -/
def Foreign (cs : List Char) : Prop := ∀ c ∈ cs, 0x80 ≤ c.toNat

@[simp] theorem toNat_replacement : replacement.toNat = 0xFFFD := rfl

@[simp] theorem foreign_nil : Foreign [] := by simp [Foreign]

@[simp] theorem foreign_cons {c : Char} {cs : List Char} :
    Foreign (c :: cs) ↔ 0x80 ≤ c.toNat ∧ Foreign cs := by simp [Foreign]

theorem foreign_finish (s : State) : Foreign (finish s) := by cases s <;> simp [finish]

/-! ## One byte -/

/-- An ASCII byte ends what is open as the end of the input would, and stands for itself. -/
theorem step_of_ascii {s : State} (hs : s.Sound) {b : UInt8} (hb : b < 0x80) :
    step s b = (.idle, finish s ++ [charOf b]) := by
  have hstart : start b = (.idle, [charOf b]) := by rw [start, if_pos hb, charOf]
  cases s with
  | idle => simp [step, finish, hstart]
  | inside low high more value =>
    have hout : ¬ (low ≤ b ∧ b ≤ high) := by
      rintro ⟨hlow, -⟩
      have hlow' : low.toNat ≤ b.toNat := UInt8.le_iff_toNat_le.mp hlow
      have hb' : b.toNat < 0x80 := UInt8.lt_iff_toNat_lt.mp hb
      have hcont : 0x80 ≤ low.toNat := hs.1
      omega
    simp [step, if_neg hout, finish, hstart]

/-- What a byte beyond ASCII may do: it keeps the reader sound and writes no ASCII character, and if
it writes nothing then a character is open after it. -/
def KeepsOut (r : State × List Char) : Prop :=
  r.1.Sound ∧ Foreign r.2 ∧ (r.2 = [] → r.1 ≠ .idle)

theorem keepsOut_start {b : UInt8} (hb : ¬ b < 0x80) : KeepsOut (start b) := by
  have hlow : ¬ b.toNat < 0x80 := fun h => hb (UInt8.lt_iff_toNat_lt.mpr h)
  have hbyte : b.toNat < 0x100 := b.toNat_lt
  simp only [start, UInt8.lt_iff_toNat_lt, beq_iff_eq, ← UInt8.toNat_inj, UInt8.reduceToNat,
    if_neg hlow]
  -- Every lead byte opens a range of numbers of its own, and none of them meets the surrogates.
  split_ifs
  all_goals simp [KeepsOut, State.Sound, State.Completes, Nat.isValidChar]
  all_goals omega

/-- A continuation byte that is not the last one narrows the numbers that are still possible. -/
theorem sound_continue {low high b : UInt8} {more value : Nat}
    (hs : (State.inside low high (more + 1) value).Sound) (hb : low ≤ b ∧ b ≤ high) :
    (State.inside 0x80 0xBF more (value * 64 + (b.toNat - 0x80))).Sound := by
  obtain ⟨-, -, hends⟩ := hs
  have hlow : low.toNat ≤ b.toNat := UInt8.le_iff_toNat_le.mp hb.1
  have hhigh : b.toNat ≤ high.toNat := UInt8.le_iff_toNat_le.mp hb.2
  refine ⟨le_refl _, le_refl _, fun n hn => hends n ?_⟩
  obtain ⟨hleast, hgreatest⟩ := hn
  simp only [UInt8.reduceToNat] at hleast hgreatest
  rw [State.Completes, pow_succ']
  constructor
  · calc (value * 64 + (low.toNat - 0x80)) * (64 * 64 ^ more)
        ≤ (value * 64 + (b.toNat - 0x80)) * (64 * 64 ^ more) := by gcongr
      _ = ((value * 64 + (b.toNat - 0x80)) * 64 + (0x80 - 0x80)) * 64 ^ more := by ring
      _ ≤ n := hleast
  · calc n < ((value * 64 + (b.toNat - 0x80)) * 64 + (0xBF - 0x80) + 1) * 64 ^ more := hgreatest
      _ = (value * 64 + (b.toNat - 0x80) + 1) * (64 * 64 ^ more) := by ring
      _ ≤ (value * 64 + (high.toNat - 0x80) + 1) * (64 * 64 ^ more) := by gcongr

theorem keepsOut_step {s : State} (hs : s.Sound) {b : UInt8} (hb : ¬ b < 0x80) :
    KeepsOut (step s b) := by
  have hstart := keepsOut_start hb
  cases s with
  | idle => exact hstart
  | inside low high more value =>
    by_cases hin : low ≤ b ∧ b ≤ high
    · cases more with
      | zero =>
        have hlow : low.toNat ≤ b.toNat := UInt8.le_iff_toNat_le.mp hin.1
        have hhigh : b.toNat ≤ high.toNat := UInt8.le_iff_toNat_le.mp hin.2
        obtain ⟨hvalid, hbeyond⟩ := hs.2.2 (value * 64 + (b.toNat - 0x80)) (by
          rw [State.Completes, pow_zero, mul_one, mul_one]
          omega)
        simp [KeepsOut, step, if_pos hin, State.Sound, toNat_ofNat_of_isValidChar hvalid, hbeyond]
      | succ more =>
        simpa [KeepsOut, step, if_pos hin] using sound_continue hs hin
    · simpa [KeepsOut, step, if_neg hin] using ⟨hstart.1, hstart.2.1⟩

/-! ## All bytes -/

theorem readFrom_of_ascii {s : State} (hs : s.Sound) {b : UInt8} (hb : b < 0x80) (bs : List UInt8) :
    readFrom s (b :: bs) = finish s ++ charOf b :: readFrom .idle bs := by
  simp [readFrom, step_of_ascii hs hb]

/-- The first character is there and is not ASCII. -/
def OpensForeign (cs : List Char) : Prop := ∃ c ∈ cs.head?, 0x80 ≤ c.toNat

@[simp] theorem opensForeign_cons {c : Char} {cs : List Char} :
    OpensForeign (c :: cs) ↔ 0x80 ≤ c.toNat := by simp [OpensForeign]

theorem KeepsOut.opensForeign {r : State × List Char} (h : KeepsOut r) {rest : List Char}
    (hrest : r.1 ≠ .idle → OpensForeign rest) : OpensForeign (r.2 ++ rest) := by
  obtain ⟨-, hout, hopen⟩ := h
  cases hw : r.2 with
  | nil => exact hrest (hopen hw)
  | cons c cs =>
    rw [hw, foreign_cons] at hout
    simpa using hout.1

/-- What is open is written before anything else. -/
theorem opensForeign_of_open {s : State} (hs : s.Sound) (hopen : s ≠ .idle) (bs : List UInt8) :
    OpensForeign (readFrom s bs) := by
  induction bs generalizing s with
  | nil =>
    cases s with
    | idle => exact absurd rfl hopen
    | inside => simp [readFrom, finish]
  | cons b bs ih =>
    by_cases hb : b < 0x80
    · cases s with
      | idle => exact absurd rfl hopen
      | inside => simp [readFrom_of_ascii hs hb, finish]
    · have hstep := keepsOut_step hs hb
      exact hstep.opensForeign (ih hstep.1)

/-- A text that opens beyond ASCII does not open with an ASCII byte. -/
theorem not_isPrefix_of_opensForeign {a : UInt8} (ha : a < 0x80) {l cs : List Char}
    (h : OpensForeign cs) : ¬ charOf a :: l <+: cs := by
  rintro ⟨rest, rfl⟩
  have hlow : a.toNat < 0x80 := UInt8.lt_iff_toNat_lt.mp ha
  simp only [List.cons_append, opensForeign_cons, toNat_charOf] at h
  omega

/-- From the idle reader, a text of ASCII is written first exactly if its bytes come first. -/
theorem isPrefix_readFrom_iff {needle : List UInt8} (hn : ∀ b ∈ needle, b < 0x80)
    (bs : List UInt8) :
    needle.map charOf <+: readFrom .idle bs ↔ needle <+: bs := by
  induction needle generalizing bs with
  | nil => simp
  | cons a needle ih =>
    have ha : a < 0x80 := hn a (by simp)
    have hrest : ∀ b ∈ needle, b < 0x80 := fun b hb => hn b (by simp [hb])
    cases bs with
    | nil => simp [readFrom, finish]
    | cons b bs =>
      by_cases hb : b < 0x80
      · rw [readFrom_of_ascii sound_idle hb, List.map_cons]
        simp [finish, List.cons_prefix_cons, ih hrest, charOf_injective.eq_iff]
      · have hstep := keepsOut_step sound_idle hb
        have hfirst := hstep.opensForeign fun hopen => opensForeign_of_open hstep.1 hopen bs
        have hne : a ≠ b := by
          rintro rfl
          exact hb ha
        rw [readFrom, List.map_cons, List.cons_prefix_cons]
        simp [not_isPrefix_of_opensForeign ha hfirst, hne]

/-- Nothing of a text that begins with an ASCII byte stands among characters beyond ASCII. -/
theorem isInfix_append_of_foreign {a : UInt8} (ha : a < 0x80) {l front cs : List Char}
    (hf : Foreign front) : charOf a :: l <:+: front ++ cs ↔ charOf a :: l <:+: cs := by
  induction front with
  | nil => simp
  | cons c front ih =>
    rw [foreign_cons] at hf
    have hfirst : OpensForeign (c :: (front ++ cs)) := opensForeign_cons.mpr hf.1
    rw [List.cons_append, List.infix_cons_iff, ih hf.2]
    simp [not_isPrefix_of_opensForeign ha hfirst]

/-- From any sound state, a text of ASCII is written somewhere exactly if its bytes come
somewhere. -/
theorem isInfix_readFrom_iff {a : UInt8} {needle : List UInt8} (ha : a < 0x80)
    (hn : ∀ b ∈ needle, b < 0x80) {s : State} (hs : s.Sound) (bs : List UInt8) :
    (a :: needle).map charOf <:+: readFrom s bs ↔ a :: needle <:+: bs := by
  -- A byte beyond ASCII may leave any sound state behind, so the induction is over all of them at
  -- once.
  induction bs generalizing s with
  | nil =>
    have hend : charOf a :: needle.map charOf <:+: finish s ++ [] ↔
        charOf a :: needle.map charOf <:+: [] :=
      isInfix_append_of_foreign ha (foreign_finish s)
    simpa [readFrom] using hend
  | cons b bs ih =>
    by_cases hb : b < 0x80
    · have hfirst : (a :: needle).map charOf <+: charOf b :: readFrom .idle bs ↔
          a :: needle <+: b :: bs := by
        have hall : ∀ x ∈ a :: needle, x < 0x80 := by simpa using ⟨ha, hn⟩
        rw [← isPrefix_readFrom_iff hall, readFrom_of_ascii sound_idle hb]
        rfl
      rw [readFrom_of_ascii hs hb, List.map_cons, isInfix_append_of_foreign ha (foreign_finish s),
        ← List.map_cons, List.infix_cons_iff, List.infix_cons_iff, hfirst, ih sound_idle]
    · obtain ⟨hnext, hout, -⟩ := keepsOut_step hs hb
      have hne : a ≠ b := by
        rintro rfl
        exact hb ha
      rw [readFrom, List.map_cons, isInfix_append_of_foreign ha hout, ← List.map_cons, ih hnext,
        List.infix_cons_iff, List.cons_prefix_cons]
      simp [hne]

/-- **Decoding neither hides nor makes ASCII text.** An ASCII text stands in the decoded text
exactly if its bytes stand, side by side, among the bytes that were decoded. -/
theorem isInfix_decode_iff {needle : List UInt8} (hn : ∀ b ∈ needle, b < 0x80) (bs : List UInt8) :
    needle.map charOf <:+: (decode bs).toList ↔ needle <:+: bs := by
  rw [decode, String.toList_ofList]
  cases needle with
  | nil => simp
  | cons a needle =>
    exact isInfix_readFrom_iff (hn a (by simp)) (fun b hb => hn b (by simp [hb])) sound_idle bs

end CiHarness.Text.Utf8
