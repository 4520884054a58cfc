import CiHarness.Host.Calendar
import CiHarness.Host.Fraction

/-!
# Formatted output

A format is text with escapes and with conversions, each of which takes an argument. A format is
used again as long as arguments are left, and missing arguments count as empty. There are three
dialects: that of the program, and those of the commands that are built into the two shells.
-/
namespace CiHarness

/-- How formats are understood. -/
structure FormatDialect where
  /-- The exit code of a malformed format. -/
  faultCode : UInt8
  /-- The escapes in a format. -/
  escapes : Escapes
  /-- The escapes in an argument that is read for escapes. -/
  argumentEscapes : Escapes
  /-- The binary digits of fractions. -/
  bits : Nat
  /-- Whether arguments can be quoted for a shell. -/
  quotes : Bool
  /-- What is said of an argument that is no number, and of one that goes on after it. -/
  noNumber : String → String
  notWhole : String → String
  /-- What is said of a number that does not fit into sixty-four bits, and whether it is a fault. -/
  tooLarge : String → String
  refusesLarge : Bool
  /-- The present moment, if formats can tell moments. -/
  now : Option Moment

namespace FormatDialect

/-- The dialect of the program. -/
def standalone : FormatDialect where
  faultCode := 1
  escapes := ⟨false, true, ['"'], ['e'], true, true, true⟩
  argumentEscapes := ⟨true, true, ['"'], ['e'], true, true, true⟩
  bits := 64
  quotes := true
  noNumber arg := "'" ++ arg ++ "': expected a numeric value"
  notWhole arg := "'" ++ arg ++ "': value not completely converted"
  tooLarge arg := "'" ++ arg ++ "': Numerical result out of range"
  refusesLarge := true
  now := none

/-- The dialect of the plain shell. -/
def builtIn : FormatDialect where
  faultCode := 2
  escapes := ⟨false, true, [], ['e'], false, false, false⟩
  argumentEscapes := ⟨true, true, [], ['e'], false, false, true⟩
  bits := 53
  quotes := false
  noNumber arg := arg ++ ": expected numeric value"
  notWhole arg := arg ++ ": not completely converted"
  tooLarge arg := arg ++ ": Numerical result out of range"
  refusesLarge := true
  now := none

/-- The dialect of the extended shell at a moment. -/
def extended (now : Moment) : FormatDialect where
  faultCode := 1
  escapes := ⟨false, true, ['"', '\x27', '?'], ['e', 'E'], true, true, false⟩
  argumentEscapes := ⟨true, true, ['"', '\x27', '?'], ['e', 'E'], true, true, true⟩
  bits := 64
  quotes := true
  noNumber arg := arg ++ ": invalid number"
  notWhole arg := arg ++ ": invalid number"
  tooLarge arg := "warning: " ++ arg ++ ": Numerical result out of range"
  refusesLarge := false
  now := some now

end FormatDialect

/-- A size that is written in a format, or taken from the next argument. -/
inductive FormatSize where
  | missing
  | given (n : Nat)
  | taken
  deriving DecidableEq

/-- A conversion: padded to a width, on the left or the right, and with a precision. -/
structure Conversion where
  flags : List Char
  width : FormatSize
  precision : FormatSize
  letter : Char
  /-- The pattern by which a moment is told. -/
  pattern : String

/-- A piece of a format. -/
inductive FormatPiece where
  | plain (cs : List Char)
  | conversion (c : Conversion)
  | malformed (text : String)

namespace Conversion

/-- The conversions that are known. -/
def letters : List Char :=
  ['s', 'c', 'b', 'q', 'd', 'i', 'u', 'o', 'x', 'X', 'f', 'F', 'e', 'E', 'g', 'G']

/-- Decimal digits in front, or a star. -/
def takeSize (cs : List Char) : FormatSize × List Char :=
  match cs with
  | '*' :: rest => (.taken, rest)
  | _ =>
    if cs.head?.any Char.isDigit then
      let (n, rest) := Escapes.takeDigits 10 cs.length 0 cs
      (.given n, rest)
    else (.missing, cs)

/-- What follows a percent sign, or the malformed conversion. -/
def read (d : FormatDialect) (cs : List Char) : Except String (Conversion × List Char) :=
  let quotes := d.quotes
  let isFlag (c : Char) : Bool := ['-', '0', '+', ' ', '#', '\x27'].contains c
  let flags := cs.takeWhile isFlag
  let (width, rest) := takeSize (cs.dropWhile isFlag)
  let (precision, rest) : FormatSize × List Char :=
    match rest with
    | '.' :: rest =>
      let (p, rest) := takeSize rest
      (if p = .missing then .given 0 else p, rest)
    | _ => (.missing, rest)
  let rest := rest.dropWhile fun c => ['l', 'L', 'h', 'j', 'z', 't'].contains c
  match rest with
  | [] => .error (String.ofList ('%' :: cs))
  | letter :: rest =>
    let pattern := rest.takeWhile (· != ')')
    let after := rest.drop (pattern.length + 1)
    if letter = '(' && d.now.isSome && after.head? = some 'T' then
      .ok (⟨flags, width, precision, 'T', String.ofList pattern⟩, after.tail)
    else if letters.contains letter && (quotes || letter != 'q') then
      .ok (⟨flags, width, precision, letter, ""⟩, rest)
    else .error (String.ofList ('%' :: cs.take (cs.length - rest.length)))

end Conversion

/-- A conversion with its sizes settled. -/
structure Shape where
  flags : List Char
  width : Nat
  precision : Option Nat
  letter : Char
  pattern : String

namespace Shape

/-- A text padded to the width. -/
def pad (c : Shape) (text : String) : String :=
  let fill := String.ofList (List.replicate (c.width - text.length) ' ')
  if c.flags.contains '-' then text ++ fill else fill ++ text

/-- The sign of a number. -/
def signText (c : Shape) (negative : Bool) : String :=
  if negative then "-" else if c.flags.contains '+' then "+"
  else if c.flags.contains ' ' then " " else ""

/-- A number's sign and digits, padded with zeros between them if the flags ask for that. -/
def padNumber (c : Shape) (sign digits : String) (mayFill : Bool) : String :=
  if mayFill && c.flags.contains '0' && !c.flags.contains '-' then
    sign ++ String.ofList (List.replicate (c.width - sign.length - digits.length) '0') ++ digits
  else c.pad (sign ++ digits)

/-- A number that is not negative, for the letters that know no sign. -/
def unsigned (n : Int) : Nat := (n % Int.pow 2 64).toNat

/-- The digits of a number, and what stands before them. -/
def digitsOf (c : Shape) (n : Int) : String × List Char :=
  let n' := unsigned n
  let alternate := c.flags.contains '#' && n' != 0
  if c.letter = 'o' then ("", (if alternate then ['0'] else []) ++ Nat.toDigits 8 n')
  else if c.letter = 'x' then (if alternate then "0x" else "", Nat.toDigits 16 n')
  else if c.letter = 'X' then
    (if alternate then "0X" else "", (Nat.toDigits 16 n').map Char.toUpper)
  else if c.letter = 'u' then ("", Nat.toDigits 10 n')
  else (c.signText (n < 0), Nat.toDigits 10 n.natAbs)

/-- A number with its sign, zeros up to the precision, and padded. -/
def renderInteger (c : Shape) (n : Int) : String :=
  let (sign, digits) := c.digitsOf n
  let digits := if c.precision = some 0 && n = 0 then [] else digits
  let zeros := List.replicate (c.precision.getD 0 - digits.length) '0'
  c.padNumber sign (String.ofList (zeros ++ digits)) c.precision.isNone

/-- A fraction in the form that the letter asks for. -/
def renderFraction (c : Shape) (q : Fraction) : String :=
  let places := c.precision.getD 6
  let digits :=
    if c.letter = 'f' ∨ c.letter = 'F' then q.fixed places
    else if c.letter = 'e' ∨ c.letter = 'E' then q.scientific places c.letter
    else q.general places (if c.letter = 'g' then 'e' else 'E') (c.flags.contains '#')
  c.padNumber (c.signText q.negative) digits true

end Shape

/-- A number that an argument begins with, and whether there is one and nothing follows it. -/
inductive Spelling where
  | whole
  | partly
  | absent
  deriving DecidableEq

namespace Spelling

/-- The whole number that an argument begins with: decimal, octal after a zero, hexadecimal after
`0x`, or the code of the byte after a quote. -/
def integer (arg : String) : Int × Spelling :=
  match arg.toList.dropWhile fun c => c = ' ' || ('\t' ≤ c && c ≤ '\r') with
  | [] => (0, if arg = "" then .whole else .absent)
  | '\x27' :: c :: rest => (c.toNat, if rest.isEmpty then .whole else .partly)
  | '"' :: c :: rest => (c.toNat, if rest.isEmpty then .whole else .partly)
  | '-' :: cs => let (n, s) := magnitude cs; (-(n : Int), s)
  | '+' :: cs => let (n, s) := magnitude cs; ((n : Int), s)
  | cs => let (n, s) := magnitude cs; ((n : Int), s)
where
  magnitude (cs : List Char) : Nat × Spelling :=
    let (base, digits) : Nat × List Char :=
      match cs with
      | '0' :: x :: d :: rest =>
        if (x = 'x' ∨ x = 'X') ∧ Escapes.isDigitIn 16 d then (16, d :: rest) else (8, cs)
      | '0' :: _ => (8, cs)
      | _ => (10, cs)
    let (n, rest) := Escapes.takeDigits base digits.length 0 digits
    (n, if rest.length = digits.length then .absent else if rest.isEmpty then .whole else .partly)

/-- The fraction that an argument begins with. -/
def fraction (bits : Nat) (arg : String) : Fraction × Spelling :=
  match arg.toList with
  | [] => (.ofInt 0, .whole)
  | '\x27' :: c :: rest => (.ofInt c.toNat, if rest.isEmpty then .whole else .partly)
  | '"' :: c :: rest => (.ofInt c.toNat, if rest.isEmpty then .whole else .partly)
  | cs =>
    match Fraction.read? cs with
    | some (q, rest) => (q.rounded bits, if rest.isEmpty then .whole else .partly)
    | none => (.ofInt 0, .absent)

end Spelling

/-- What a format has given so far: the text, whether it stops there, the complaints about
arguments, and whether one of them is a fault. -/
structure Formatted where
  text : String
  stops : Bool
  complaints : List String
  isFaulty : Bool

namespace Formatted

def empty : Formatted := ⟨"", false, [], false⟩

/-- A text about which there are no complaints. -/
def ofText (text : String) (stops : Bool) : Formatted := ⟨text, stops, [], false⟩

/-- Something is written after what was given so far. -/
def after (before next : Formatted) : Formatted :=
  ⟨before.text ++ next.text, next.stops, before.complaints ++ next.complaints,
    before.isFaulty || next.isFaulty⟩

end Formatted

/-- A text in the quotes of a shell: as it stands if it needs none, with backslashes, or with
escapes if it holds controls. -/
def shellQuoted (s : String) : String :=
  let isSafe (c : Char) : Bool :=
    c.isAlphanum || ['_', '/', '.', '-', '+', ':', '@', '%', '='].contains c
  if s = "" then "''"
  else if s.any fun c => c.toNat < 0x20 || 0x7F ≤ c.toNat then
    "$'" ++ String.join (s.toList.map fun c =>
      if c = '\n' then "\\n" else if c = '\t' then "\\t" else if c = '\r' then "\\r"
      else if c = '\x07' then "\\a" else if c = '\x08' then "\\b" else if c = '\x0b' then "\\v"
      else if c = '\x0c' then "\\f" else if c = '\x1b' then "\\E"
      else if c = '\\' then "\\\\" else if c = '\x27' then "\\'"
      else if c.toNat < 0x20 || 0x7F ≤ c.toNat then
        let digits := Nat.toDigits 8 c.toNat
        "\\" ++ String.ofList (List.replicate (3 - digits.length) '0' ++ digits)
      else c.toString) ++ "'"
  else String.join (s.toList.map fun c => if isSafe c then c.toString else "\\" ++ c.toString)

/-- The same as the program quotes: in single quotes where it can. -/
def plainQuoted (s : String) : String :=
  let isSafe (c : Char) : Bool :=
    c.isAlphanum || ['_', '/', '.', '-', '+', ':', '@', '%', '=', ','].contains c
  if s != "" && s.all isSafe then s
  else if !s.toList.contains '\x27' then "'" ++ s ++ "'"
  else if s.any fun c => c = '"' || c = '$' || c = '\x60' || c = '\\' then
    "'" ++ s.replace "'" "'\\''" ++ "'"
  else "\"" ++ s ++ "\""

namespace FormatPiece

/-- The pieces of a format; the first argument bounds their number. -/
def ofChars (d : FormatDialect) : Nat → List Char → List FormatPiece
  | 0, _ => []
  | _ + 1, [] => []
  | n + 1, '%' :: '%' :: cs => .plain ['%'] :: ofChars d n cs
  | n + 1, '%' :: cs =>
    match Conversion.read d cs with
    | .ok (c, cs) => .conversion c :: ofChars d n cs
    | .error text => [.malformed text]
  | n + 1, cs => .plain (cs.takeWhile (· != '%')) :: ofChars d n (cs.dropWhile (· != '%'))

/-- The sizes of a conversion are settled; those that are arguments are taken. -/
def settle (c : Conversion) (args : List String) : Shape × List String :=
  let take (size : FormatSize) (args : List String) : Option Int × List String :=
    match size with
    | .missing => (none, args)
    | .given n => (some n, args)
    | .taken => (some (Spelling.integer (args.headD "")).1, args.tail)
  let (width, args) := take c.width args
  let (precision, args) := take c.precision args
  let flags := if width.any (· < 0) then '-' :: c.flags else c.flags
  (⟨flags, (width.getD 0).natAbs, (precision.filter (0 ≤ ·)).map Int.toNat, c.letter, c.pattern⟩,
    args)

/-- One conversion of an argument. -/
def convert (d : FormatDialect) (c : Shape) (arg : String) : Formatted :=
  let cut (s : String) : String := c.precision.elim s fun n => String.ofList (s.toList.take n)
  let withComplaints (text : String) (s : Spelling) (fits : Bool) : Formatted :=
    let complaints := match s with
      | .whole => []
      | .partly => [d.notWhole arg]
      | .absent => [d.noNumber arg]
    if fits then ⟨text, false, complaints, s ≠ .whole⟩
    else ⟨text, false, [d.tooLarge arg], d.refusesLarge⟩
  if c.letter = 's' then .ofText (c.pad (cut arg)) false
  else if c.letter = 'T' then
    let (n, spelling) := if arg = "" then (-1, .whole) else Spelling.integer arg
    let moment := if n < 0 then d.now.getD (.ofSeconds 0) else Moment.ofSeconds n
    withComplaints (c.pad (cut (moment.tell false (if c.pattern = "" then "%X" else c.pattern))))
      spelling true
  else if c.letter = 'c' then
    .ofText (c.pad (if arg = "" then "\x00" else String.ofList (arg.toList.take 1))) false
  else if c.letter = 'b' then
    let (text, stops) := d.argumentEscapes.replace arg.toList
    .ofText (c.pad (cut (String.ofList text))) stops
  else if c.letter = 'q' then
    .ofText (c.pad (if d.faultCode == 1 && d.escapes.knowsStop then plainQuoted arg
      else shellQuoted arg)) false
  else if ['d', 'i', 'u', 'o', 'x', 'X'].contains c.letter then
    let (n, spelling) := Spelling.integer arg
    let (fits, n) :=
      if ['d', 'i'].contains c.letter then
        (-Int.pow 2 63 ≤ n && n < Int.pow 2 63, max (-Int.pow 2 63) (min n (Int.pow 2 63 - 1)))
      else (n.natAbs < Nat.pow 2 64, if n.natAbs < Nat.pow 2 64 then n else Int.pow 2 64 - 1)
    withComplaints (c.renderInteger n) spelling fits
  else
    let (q, spelling) := Spelling.fraction d.bits arg
    withComplaints (c.renderFraction q) spelling true

/-- One pass of a format over arguments, and the arguments that are left. -/
def renderOnce (d : FormatDialect) : List FormatPiece → List String → Formatted × List String
  | [], args => (.empty, args)
  | .malformed text :: _, args =>
    (⟨"", true, [text ++ ": invalid conversion specification"], true⟩, args)
  | .plain cs :: pieces, args =>
    let (text, stops) := d.escapes.replace cs
    if stops then (.ofText (String.ofList text) true, [])
    else
      let (rest, left) := renderOnce d pieces args
      (Formatted.after (.ofText (String.ofList text) false) rest, left)
  | .conversion c :: pieces, args =>
    let (shape, args) := settle c args
    let first := convert d shape (args.headD "")
    if first.stops then (first, [])
    else
      let (rest, left) := renderOnce d pieces args.tail
      (first.after rest, left)

/-- A format is used as long as it stops nowhere and takes arguments that are left. -/
def renderAll (d : FormatDialect) (pieces : List FormatPiece) : Nat → List String → Formatted
  | 0, _ => .empty
  | n + 1, args =>
    let (first, left) := renderOnce d pieces args
    if first.stops || left.isEmpty || left.length = args.length then first
    else first.after (renderAll d pieces n left)

end FormatPiece

namespace FormatDialect

/-- The exit code, the text and the complaints of a format with arguments. -/
def render (d : FormatDialect) (format : String) (args : List String) :
    UInt8 × String × List String :=
  let pieces := FormatPiece.ofChars d (format.length + 1) format.toList
  let formatted := FormatPiece.renderAll d pieces (args.length + 1) args
  let isMalformed := pieces.any fun
    | .malformed _ => true
    | _ => false
  (if isMalformed then d.faultCode else if formatted.isFaulty then 1 else 0,
    formatted.text, formatted.complaints)

end FormatDialect

end CiHarness
