/-!
# Bytes as text

A program writes bytes, and the harness shows text. Well-formed UTF-8 is read as it stands; each
maximal ill-formed part is read as one replacement character. The reader is a machine that takes
one byte at a time, so a text may be read in parts: its state between two bytes is all that is
carried over.
-/
namespace CiHarness.Text.Utf8

/-- What stands for bytes that are no text. -/
def replacement : Char := '\ufffd'

/-- Between two bytes the reader is idle, or inside a character: the next byte must lie from `low`
to `high`, `more` continuation bytes follow it, and `value` holds the bits read so far. -/
inductive State where
  | idle
  | inside (low high : UInt8) (more value : Nat)
  deriving DecidableEq

/-- A byte that begins a character, or stands for itself, or is no text. -/
def start (b : UInt8) : State × List Char :=
  if b < 0x80 then (.idle, [Char.ofNat b.toNat])
  else if b < 0xC2 then (.idle, [replacement])
  else if b < 0xE0 then (.inside 0x80 0xBF 0 (b.toNat - 0xC0), [])
  else if b == 0xE0 then (.inside 0xA0 0xBF 1 0, [])
  else if b == 0xED then (.inside 0x80 0x9F 1 0xD, [])
  else if b < 0xF0 then (.inside 0x80 0xBF 1 (b.toNat - 0xE0), [])
  else if b == 0xF0 then (.inside 0x90 0xBF 2 0, [])
  else if b < 0xF4 then (.inside 0x80 0xBF 2 (b.toNat - 0xF0), [])
  else if b == 0xF4 then (.inside 0x80 0x8F 2 4, [])
  else (.idle, [replacement])

/-- One byte is taken. A byte that cannot continue a character ends it as ill-formed and is then
read afresh. -/
def step : State → UInt8 → State × List Char
  | .idle, b => start b
  | .inside low high more value, b =>
    if low ≤ b ∧ b ≤ high then
      let value := value * 64 + (b.toNat - 0x80)
      match more with
      | 0 => (.idle, [Char.ofNat value])
      | more + 1 => (.inside 0x80 0xBF more value, [])
    else
      let (next, cs) := start b
      (next, replacement :: cs)

/-- A character that is still open at the end is ill-formed. -/
def finish : State → List Char
  | .idle => []
  | .inside .. => [replacement]

/-- The characters read from a state on. -/
def readFrom : State → List UInt8 → List Char
  | s, [] => finish s
  | s, b :: bs => (step s b).2 ++ readFrom (step s b).1 bs

/-- The text that bytes show. -/
def decode (bs : List UInt8) : String := String.ofList (readFrom .idle bs)

/-- The bytes of a text. -/
def encode (s : String) : List UInt8 := s.toList.flatMap String.utf8EncodeChar

end CiHarness.Text.Utf8
