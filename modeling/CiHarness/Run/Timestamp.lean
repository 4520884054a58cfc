import CiHarness.Text.Blank

/-!
# Timestamps

The time at which a run started, as a civil time in UTC down to the nanosecond. It is written in the
form of RFC 3339 with `Z` and with as many groups of three decimals as it needs. Reading is more
lenient: numbers may be short, blanks may stand between the parts, the date may be set off by a
blank or either case of T, and any offset below a day is brought to UTC. A leap second stays one.
-/
namespace CiHarness

/-- A civil date. -/
structure Date where
  year : Int
  month : Nat
  day : Nat
  deriving DecidableEq

namespace Date

/-- Every fourth year is a leap year, but of the hundredth ones only every fourth. -/
def isLeapYear (year : Int) : Bool := year % 4 = 0 && (year % 100 ≠ 0 || year % 400 = 0)

/-- The length of a month. -/
def daysIn (year : Int) (month : Nat) : Nat :=
  if month = 2 then if isLeapYear year then 29 else 28
  else if month = 4 ∨ month = 6 ∨ month = 9 ∨ month = 11 then 30
  else 31

/-- The dates of the calendar, in the years that are supported. -/
def isValid (d : Date) : Bool :=
  -262143 ≤ d.year && d.year ≤ 262142 && 1 ≤ d.month && d.month ≤ 12 && 1 ≤ d.day &&
    d.day ≤ daysIn d.year d.month

/-- The day after. -/
def next (d : Date) : Date :=
  if d.day < daysIn d.year d.month then { d with day := d.day + 1 }
  else if d.month < 12 then ⟨d.year, d.month + 1, 1⟩
  else ⟨d.year + 1, 1, 1⟩

/-- The day before. -/
def previous (d : Date) : Date :=
  if 1 < d.day then { d with day := d.day - 1 }
  else if 1 < d.month then ⟨d.year, d.month - 1, daysIn d.year (d.month - 1)⟩
  else ⟨d.year - 1, 12, 31⟩

end Date

/-- A civil time in UTC. The second is 60 in a leap second. -/
structure Timestamp where
  date : Date
  hour : Nat
  minute : Nat
  second : Nat
  nanos : Nat
  deriving DecidableEq

namespace Timestamp

/-! ## Writing -/

/-- A number with zeros in front up to a width. -/
def padded (width n : Nat) : List Char :=
  let ds := Nat.toDigits 10 n
  List.replicate (width - ds.length) '0' ++ ds

/-- A year has four digits; outside of 0 to 9999 it has a sign. -/
def writeYear (year : Int) : List Char :=
  if 0 ≤ year ∧ year ≤ 9999 then padded 4 year.toNat
  else (if year < 0 then '-' else '+') :: padded 4 year.natAbs

/-- No decimals, or three, six or nine. -/
def writeDecimals (nanos : Nat) : List Char :=
  if nanos = 0 then []
  else if nanos % 1000000 = 0 then '.' :: padded 3 (nanos / 1000000)
  else if nanos % 1000 = 0 then '.' :: padded 6 (nanos / 1000)
  else '.' :: padded 9 nanos

/-- The written form as characters. -/
def toChars (t : Timestamp) : List Char :=
  writeYear t.date.year ++ '-' :: (padded 2 t.date.month ++ '-' :: (padded 2 t.date.day ++
    'T' :: (padded 2 t.hour ++ ':' :: (padded 2 t.minute ++ ':' :: (padded 2 t.second ++
      (writeDecimals t.nanos ++ ['Z']))))))

/-- The written form. -/
def toText (t : Timestamp) : String := String.ofList t.toChars

/-! ## Reading -/

/-- The value of a decimal digit. -/
def digit? (c : Char) : Option Nat :=
  if 0x30 ≤ c.toNat ∧ c.toNat ≤ 0x39 then some (c.toNat - 0x30) else none

/-- At most `width` digits are taken, after a value read so far. -/
def takeDigits : Nat → Nat → List Char → Nat × List Char
  | 0, value, cs => (value, cs)
  | _ + 1, value, [] => (value, [])
  | width + 1, value, c :: cs =>
    match digit? c with
    | some d => takeDigits width (value * 10 + d) cs
    | none => (value, c :: cs)

/-- A number of one to `width` digits. -/
def number? (width : Nat) (cs : List Char) : Option (Nat × List Char) :=
  match cs with
  | [] => none
  | c :: _ => if (digit? c).isSome then some (takeDigits width 0 cs) else none

/-- A number of one or two digits within bounds, after blanks. -/
def field? (low high : Nat) (cs : List Char) : Option (Nat × List Char) :=
  (number? 2 (Text.dropBlanks cs)).bind fun (n, rest) =>
    if low ≤ n ∧ n ≤ high then some (n, rest) else none

/-- A year: up to four digits, or any number of digits after a sign. -/
def year? (cs : List Char) : Option (Int × List Char) :=
  match Text.dropBlanks cs with
  | '-' :: rest => (number? rest.length rest).map fun (n, rest) => (-(n : Int), rest)
  | '+' :: rest => (number? rest.length rest).map fun (n, rest) => ((n : Int), rest)
  | rest => (number? 4 rest).map fun (n, rest) => ((n : Int), rest)

/-- A mark, after blanks. -/
def mark? (mark : Char) (cs : List Char) : Option (List Char) :=
  match Text.dropBlanks cs with
  | c :: rest => if c = mark then some rest else none
  | [] => none

/-- Decimals after a point, as nanoseconds; those past the ninth are dropped. -/
def decimals? (cs : List Char) : Option (Nat × List Char) :=
  match cs with
  | '.' :: rest =>
    (number? 9 rest).map fun (n, after) =>
      (n * Nat.pow 10 (9 - (rest.length - after.length)), after.dropWhile (digit? · |>.isSome))
  | _ => some (0, cs)

/-- Two digits, as they stand. -/
def twoDigits? : List Char → Option (Nat × List Char)
  | a :: b :: rest => (digit? a).bind fun x => (digit? b).map fun y => (x * 10 + y, rest)
  | _ => none

/-- Hours and minutes of an offset, with colons and blanks allowed between them. -/
def offsetMinutes? (cs : List Char) : Option (Nat × List Char) :=
  (twoDigits? cs).bind fun (hours, rest) =>
    (twoDigits? (rest.dropWhile fun c => c = ':' || Text.isBlank c)).bind fun (minutes, rest) =>
      if hours < 24 ∧ minutes < 60 then some (hours * 60 + minutes, rest) else none

/-- A letter of the zone name, in either case. -/
def isLetter (upper : Char) (c : Char) : Bool := c = upper || c = upper.toLower

/-- An offset from UTC in minutes. -/
def offset? (cs : List Char) : Option (Int × List Char) :=
  match Text.dropBlanks cs with
  | '+' :: rest => (offsetMinutes? rest).map fun (n, rest) => ((n : Int), rest)
  | '-' :: rest => (offsetMinutes? rest).map fun (n, rest) => (-(n : Int), rest)
  | '\u2212' :: rest => (offsetMinutes? rest).map fun (n, rest) => (-(n : Int), rest)
  | a :: rest =>
    if isLetter 'Z' a then some (0, rest)
    else
      match rest with
      | b :: c :: rest =>
        if isLetter 'U' a && isLetter 'T' b && isLetter 'C' c then some (0, rest) else none
      | _ => none
  | [] => none

/-- A local date and time of day is brought to UTC. -/
def toUtc? (date : Date) (hour minute second nanos : Nat) (offset : Int) : Option Timestamp :=
  let minutes := ((hour * 60 + minute : Nat) : Int) - offset
  let date :=
    if minutes < 0 then date.previous else if 1440 ≤ minutes then date.next else date
  let ofDay := (minutes % 1440).toNat
  if date.isValid then some ⟨date, ofDay / 60, ofDay % 60, second, nanos⟩ else none

/-- A timestamp of a written form. -/
def ofChars? (cs : List Char) : Option Timestamp := do
  let (year, cs) ← year? cs
  let cs ← mark? '-' cs
  let (month, cs) ← field? 1 12 cs
  let cs ← mark? '-' cs
  let (day, cs) ← field? 1 31 cs
  let date : Date := ⟨year, month, day⟩
  let cs ←
    match cs with
    | c :: cs => if isLetter 'T' c || c = ' ' then some cs else none
    | [] => none
  let (hour, cs) ← field? 0 23 cs
  let cs ← mark? ':' cs
  let (minute, cs) ← field? 0 59 cs
  let cs ← mark? ':' cs
  let (second, cs) ← field? 0 60 cs
  let (nanos, cs) ← decimals? cs
  let (offset, cs) ← offset? cs
  if date.isValid && (Text.dropBlanks cs).isEmpty then
    toUtc? date hour minute second nanos offset
  else none

/-- The timestamp of a written form. -/
def ofText? (s : String) : Option Timestamp := ofChars? s.toList

/-! ## Clocks -/

/-- The first moment of 1970, from which clocks count. -/
def epoch : Timestamp := ⟨⟨1970, 1, 1⟩, 0, 0, 0, 0⟩

/-- The date that lies a number of days after that of the epoch. Years are counted from March, so
that a leap day ends its year, in eras of 400 years. -/
def dateOfDays (days : Int) : Date :=
  let fromMarch := days + 719468
  let era := fromMarch / 146097
  let ofEra := fromMarch % 146097
  let yearOfEra := (ofEra - ofEra / 1460 + ofEra / 36524 - ofEra / 146096) / 365
  let ofYear := ofEra - (365 * yearOfEra + yearOfEra / 4 - yearOfEra / 100)
  let month := (5 * ofYear + 2) / 153
  let day := ofYear - (153 * month + 2) / 5 + 1
  let year := yearOfEra + 400 * era
  if month < 10 then ⟨year, (month + 3).toNat, day.toNat⟩
  else ⟨year + 1, (month - 9).toNat, day.toNat⟩

/-- The time that a clock shows by its seconds since the epoch. -/
def ofClock (seconds : Int) (nanos : Nat) : Timestamp :=
  let ofDay := (seconds % 86400).toNat
  ⟨dateOfDays (seconds / 86400), ofDay / 3600, ofDay / 60 % 60, ofDay % 60, nanos⟩

end Timestamp

end CiHarness
