import CiHarness.Host.Octets

/-!
# Escapes

Programs that write text let bytes be given by a backslash and a letter, or by a backslash and
digits. Which escapes are known differs from program to program; one that is not known stands for
itself.
-/
namespace CiHarness

/-- The escapes that are known besides those of one letter. -/
structure Escapes where
  /-- An octal number may have a zero in front, which is not one of its three digits. -/
  octalAfterZero : Bool
  /-- An octal number may begin with any digit. -/
  octalAtOnce : Bool
  /-- Marks that stand for themselves. -/
  quotes : List Char
  /-- The letters of the escape character. -/
  escapes : List Char
  knowsHex : Bool
  /-- Characters may be given by their numbers. -/
  knowsNumbers : Bool
  /-- The letter that ends all output. -/
  knowsStop : Bool

namespace Escapes

/-- The escapes of one letter alone. -/
def letters : Escapes := ⟨false, false, [], [], false, false, false⟩

/-- Letters, octal numbers and hexadecimal ones. -/
def numbers : Escapes := { letters with octalAtOnce := true, knowsHex := true }

/-- The value of a digit, up to the sixteenth. -/
def digit? (c : Char) : Option Nat :=
  if '0' ≤ c ∧ c ≤ '9' then some (c.toNat - '0'.toNat)
  else if 'a' ≤ c ∧ c ≤ 'f' then some (c.toNat - 'a'.toNat + 10)
  else if 'A' ≤ c ∧ c ≤ 'F' then some (c.toNat - 'A'.toNat + 10)
  else none

/-- Whether a character is a digit in a base. -/
def isDigitIn (base : Nat) (c : Char) : Bool := (digit? c).any (· < base)

/-- Up to `width` digits after a value read so far. -/
def takeDigits (base : Nat) : Nat → Nat → List Char → Nat × List Char
  | 0, value, cs => (value, cs)
  | _ + 1, value, [] => (value, [])
  | width + 1, value, c :: cs =>
    if isDigitIn base c then takeDigits base width (value * base + (digit? c).getD 0) cs
    else (value, c :: cs)

theorem length_takeDigits_le (base width value : Nat) (cs : List Char) :
    (takeDigits base width value cs).2.length ≤ cs.length := by
  induction width generalizing value cs with
  | zero => simp [takeDigits]
  | succ width ih =>
    cases cs with
    | nil => simp [takeDigits]
    | cons c cs =>
      simp only [takeDigits]
      split
      · exact Nat.le_succ_of_le (ih _ cs)
      · exact Nat.le_refl _

/-- The byte of a one-letter escape. -/
def letter? (e : Escapes) (c : Char) : Option Char :=
  if c = '\\' then some '\\'
  else if c = 'a' then some '\x07'
  else if c = 'b' then some '\x08'
  else if c = 'f' then some '\x0c'
  else if c = 'n' then some '\n'
  else if c = 'r' then some '\r'
  else if c = 't' then some '\t'
  else if c = 'v' then some '\x0b'
  else if e.escapes.contains c then some '\x1b'
  else if e.quotes.contains c then some c
  else none

/-- A byte of a number. -/
def byte (n : Nat) : Char := Char.ofNat (n % 256)

/-- Hexadecimal digits with zeros in front. -/
def hex (width n : Nat) : List Char :=
  let digits := (Nat.toDigits 16 n).map Char.toUpper
  List.replicate (width - digits.length) '0' ++ digits

/-- The character with a number, as far as it is one of the portable ones; any other is shown by its
number. -/
def character (n : Nat) : List Char :=
  if n < 0x80 then [Char.ofNat n]
  else if n < 0x10000 then '\\' :: 'u' :: hex 4 n else '\\' :: 'U' :: hex 8 n

/-- What an escape stands for, given by what follows the backslash, and what comes after it. -/
def read (e : Escapes) (c : Char) (cs : List Char) : List Char × List Char :=
  match e.letter? c with
  | some b => ([b], cs)
  | none =>
    if c = 'x' ∧ e.knowsHex ∧ (cs.head?.any (isDigitIn 16)) then
      let number := takeDigits 16 2 0 cs
      ([byte number.1], number.2)
    else if c = 'u' ∧ e.knowsNumbers ∧ (cs.head?.any (isDigitIn 16)) then
      let number := takeDigits 16 4 0 cs
      (character number.1, number.2)
    else if c = 'U' ∧ e.knowsNumbers ∧ (cs.head?.any (isDigitIn 16)) then
      let number := takeDigits 16 8 0 cs
      (character number.1, number.2)
    else if c = '0' ∧ e.octalAfterZero then
      let number := takeDigits 8 3 0 cs
      ([byte number.1], number.2)
    else if isDigitIn 8 c ∧ e.octalAtOnce then
      let number := takeDigits 8 2 ((digit? c).getD 0) cs
      ([byte number.1], number.2)
    else (['\\', c], cs)

theorem length_read_le (e : Escapes) (c : Char) (cs : List Char) :
    (e.read c cs).2.length ≤ cs.length := by
  have := length_takeDigits_le
  unfold read
  split
  · exact Nat.le_refl _
  · repeat' split
    all_goals first
      | exact length_takeDigits_le _ _ _ _
      | exact Nat.le_refl _

/-- A text with its escapes replaced, and whether all output ends there. -/
def replace (e : Escapes) : List Char → List Char × Bool
  | [] => ([], false)
  | '\\' :: c :: cs =>
    if c = 'c' ∧ e.knowsStop then ([], true)
    else
      let escape := e.read c cs
      let (rest, stops) := replace e escape.2
      (escape.1 ++ rest, stops)
  | c :: cs =>
    let (rest, stops) := replace e cs
    (c :: rest, stops)
termination_by cs => cs.length
decreasing_by
  · have := e.length_read_le c cs
    simp only [List.length_cons]
    omega
  · simp

/-- A text with its escapes replaced. -/
def replaced (e : Escapes) (s : String) : String := String.ofList (e.replace s.toList).1

end Escapes

end CiHarness
