import CiHarness.Text.Utf8

/-!
# Text for a terminal

A terminal shows text in bold or underlined between control sequences. For a reader that is no
terminal all control sequences are taken out again, also those that were part of what is shown: a
machine follows the bytes through the sequences of the escape character and lets pass what would be
visible, and of the controls only blanks. A sequence without an end takes with it all that follows
up to the next one.
-/
namespace CiHarness.Text.Terminal

/-- The sequence that ends all styles. -/
def reset : String := "\x1b[0m"

/-- Text in bold. -/
def bold (s : String) : String := "\x1b[1m" ++ s ++ reset

/-- Text in bold and underlined. -/
def underlined (s : String) : String := "\x1b[1m\x1b[4m" ++ s ++ reset

/-- Where the machine stands. -/
inductive Mode where
  | ground
  /-- Inside of a character, which has that many bytes more. -/
  | character (more : Nat)
  /-- After the escape character, and after further marks behind it. -/
  | escape
  | escapeMarks
  /-- In a control sequence. -/
  | sequence
  /-- In the head of a device string, after its parameters, and after marks behind them. -/
  | device
  | deviceParameters
  | deviceMarks
  /-- In a string of which nothing is visible. -/
  | hidden
  /-- In a string for the window's title and the like. -/
  | title
  deriving DecidableEq

/-- A control that counts as a blank. -/
def isBlankControl (b : UInt8) : Bool := b == 9 || b == 10 || b == 12 || b == 13

/-- A control other than those that end a sequence. -/
def isControl (b : UInt8) : Bool := b < 0x20 && b != 0x18 && b != 0x1A && b != 0x1B

/-- What a byte does: the mode it leads to, if it leads to another one, and whether it is
visible. -/
def change (m : Mode) (b : UInt8) : Option Mode × Bool :=
  if b == 0x18 || b == 0x1A then (some .ground, false)
  else if b == 0x1B then (some .escape, false)
  else
    match m with
    | .ground =>
      if b < 0x20 then (none, isBlankControl b)
      else if b < 0x7F then (none, true)
      else if 0xC2 ≤ b && b < 0xE0 then (some (.character 1), true)
      else if 0xE0 ≤ b && b < 0xF0 then (some (.character 2), true)
      else if 0xF0 ≤ b && b < 0xF5 then (some (.character 3), true)
      else (none, false)
    | .escape =>
      if isControl b then (none, isBlankControl b)
      else if b < 0x30 then (some .escapeMarks, false)
      else if b == 0x5B then (some .sequence, false)
      else if b == 0x5D then (some .title, false)
      else if b == 0x50 then (some .device, false)
      else if b == 0x58 || b == 0x5E || b == 0x5F then (some .hidden, false)
      else if b < 0x7F then (some .ground, false)
      else (none, false)
    | .escapeMarks =>
      if isControl b then (none, isBlankControl b)
      else if 0x30 ≤ b && b < 0x7F then (some .ground, false)
      else (none, false)
    | .sequence =>
      if isControl b then (none, isBlankControl b)
      else if 0x40 ≤ b && b < 0x7F then (some .ground, false)
      else (none, false)
    | .device =>
      if 0x20 ≤ b && b < 0x30 then (some .deviceMarks, false)
      else if 0x30 ≤ b && b < 0x40 then (some .deviceParameters, false)
      else if 0x40 ≤ b && b < 0x7F then (some .hidden, false)
      else (none, false)
    | .deviceParameters =>
      if 0x20 ≤ b && b < 0x30 then (some .deviceMarks, false)
      else if 0x3C ≤ b && b < 0x7F then (some .hidden, false)
      else (none, false)
    | .deviceMarks => if 0x30 ≤ b && b < 0x7F then (some .hidden, false) else (none, false)
    | .hidden => if b == 0x9C then (some .ground, false) else (none, false)
    | .title => if b == 7 then (some .ground, false) else (none, false)
    | .character _ => (none, true)

/-- The machine: its mode, and whether the last byte was visible. After a visible byte the next one
is read as if no sequence were open. -/
structure State where
  mode : Mode
  showing : Bool

/-- One byte is taken. -/
def step (s : State) (b : UInt8) : State × Bool :=
  match s.mode with
  | .character (n + 2) => (⟨.character (n + 1), true⟩, true)
  | .character _ => (⟨.ground, true⟩, true)
  | mode =>
    let (next, visible) := change (if s.showing then .ground else mode) b
    let next := next.getD mode
    if visible then (⟨next, true⟩, true)
    else if s.showing then (⟨(change next b).1.getD next, false⟩, false)
    else (⟨next, false⟩, false)

/-- The visible ones of some bytes. -/
def visibleFrom : State → List UInt8 → List UInt8
  | _, [] => []
  | s, b :: bs =>
    let (next, visible) := step s b
    if visible then b :: visibleFrom next bs else visibleFrom next bs

/-- A text without its control sequences. -/
def withoutControls (s : String) : String :=
  Utf8.decode (visibleFrom ⟨.ground, false⟩ (Utf8.encode s))

end CiHarness.Text.Terminal
