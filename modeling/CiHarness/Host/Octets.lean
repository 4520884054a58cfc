import CiHarness.Text.Utf8

/-!
# Texts of bytes

Programs handle bytes. A text of bytes has one character for each byte, the one with the byte's
number, so that what is known of texts can be said of bytes too: names of options, numbers and
blanks look as they do in any text, and a character beyond ASCII is spread over several. Names of
files and what is shown are real texts; here they are turned into one another.
-/
namespace CiHarness.Octets

/-- A text of ASCII characters alone is the same as a text of bytes. -/
def isPlain (s : String) : Bool := s.all fun (c : Char) => decide (c.toNat < 0x80)

/-- The bytes of a real text. -/
def ofText (s : String) : String :=
  if isPlain s then s
  else String.ofList ((Text.Utf8.encode s).map fun b => Char.ofNat b.toNat)

/-- The bytes as a list of numbers. -/
def toList (s : String) : List UInt8 := s.toList.map fun c => UInt8.ofNat c.toNat

/-- The real text that bytes show. -/
def toText (s : String) : String :=
  if isPlain s then s else Text.Utf8.decode (toList s)

/-- The bytes as an array. -/
def toBytes (s : String) : ByteArray :=
  s.foldl (fun bytes c => bytes.push (UInt8.ofNat c.toNat)) ByteArray.empty

/-- The bytes of an array. -/
def ofBytes (bytes : ByteArray) : String :=
  bytes.foldl (fun s b => s.push (Char.ofNat b.toNat)) ""

/-- The lines of some characters, each with its line break; only the last one may lack it. -/
def lineChars : List Char → List (List Char)
  | [] => []
  | c :: cs =>
    if c = '\n' then ['\n'] :: lineChars cs
    else
      match lineChars cs with
      | [] => [[c]]
      | line :: lines => (c :: line) :: lines

/-- Lines, the last one first, are gathered in one pass over a text. -/
def gather (s : String) : List String × String :=
  s.foldl (fun (lines, line) c =>
    if c = '\n' then (line :: lines, "") else (lines, line.push c)) ([], "")

/-- The lines of a text without their line breaks, and whether the last one had one. -/
def lines (s : String) : List String × Bool :=
  let (reversed, last) := gather s
  if last.isEmpty then (reversed.reverse, true) else ((last :: reversed).reverse, false)

/-- The lines of a text, with or without a line break at its end. -/
def bareLines (s : String) : List String := (lines s).1

/-- Lines, each with a line break. -/
def unlines (ls : List String) : String := ls.foldl (fun s line => (s ++ line).push '\n') ""

end CiHarness.Octets
