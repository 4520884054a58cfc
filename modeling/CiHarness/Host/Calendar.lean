import CiHarness.Run.Timestamp
import CiHarness.Text.Pieces

/-!
# Moments and how they are told

A moment is counted in nanoseconds since 1970 began, and told by a pattern in which a percent sign
and a letter stand for a part of it. A part can be padded in another way than it usually is. All
times are in UTC, and all names are the English ones.
-/
namespace CiHarness

namespace Date

/-- How many days lie between the first day of 1970 and a date, in eras of four hundred years whose
years begin in March. -/
def toDays (d : Date) : Int :=
  let year := if d.month ≤ 2 then d.year - 1 else d.year
  let era := Int.fdiv year 400
  let years := (year - era * 400).toNat
  let m := if d.month > 2 then d.month - 3 else d.month + 9
  let inYear := (153 * m + 2) / 5 + d.day - 1
  era * 146097 + (years * 365 + years / 4 - years / 100 + inYear : Nat) - 719468

/-- The days of its year that come before a date. -/
def yearDay (d : Date) : Nat := (d.toDays - toDays ⟨d.year, 1, 1⟩).toNat

/-- The day of the week; Sunday is zero. -/
def weekDay (d : Date) : Nat := ((d.toDays + 4) % 7).toNat

/-- The year that a date's week belongs to, and the week's number in it: weeks begin on Mondays, and
the first one of a year is the one with its first Thursday. -/
def week (d : Date) : Int × Nat :=
  let thursday := Timestamp.dateOfDays (d.toDays - ((d.weekDay + 6) % 7 : Nat) + 3)
  (thursday.year, thursday.yearDay / 7 + 1)

def weekDayNames : List String :=
  ["Sunday", "Monday", "Tuesday", "Wednesday", "Thursday", "Friday", "Saturday"]

def monthNames : List String :=
  ["January", "February", "March", "April", "May", "June", "July", "August", "September", "October",
    "November", "December"]

end Date

/-- A moment, in nanoseconds since 1970 began. -/
structure Moment where
  nanos : Int
  deriving DecidableEq

namespace Moment

def ofSeconds (n : Int) : Moment := ⟨n * 1000000000⟩

/-- The moment that a clock shows, which counts microseconds. -/
def ofClock (clock : Nat) : Moment := ⟨clock * 1000⟩

/-- What a clock shows at a moment. -/
def clock (t : Moment) : Nat := (t.nanos / 1000).toNat

/-- The whole seconds. -/
def seconds (t : Moment) : Int := Int.fdiv t.nanos 1000000000

/-- The moment of a timestamp. -/
def ofTimestamp (t : Timestamp) : Moment :=
  ⟨(t.date.toDays * 86400 + (t.hour * 3600 + t.minute * 60 + t.second : Nat)) * 1000000000 +
    t.nanos⟩

/-- The time of a day. -/
def ofParts (date : Date) (hour minute second : Nat) : Moment :=
  ofSeconds (date.toDays * 86400 + hour * 3600 + minute * 60 + second)

def date (t : Moment) : Date := Timestamp.dateOfDays (Int.fdiv t.seconds 86400)

/-- The second of the day. -/
def daySecond (t : Moment) : Nat := (t.seconds % 86400).toNat

/-! ## Telling -/

/-- A part of a moment: a number with the width and the character that usually pad it, a name, or a
pattern that stands for others. -/
inductive Part where
  | number (n : Int) (width : Nat) (fill : Char)
  | name (s : String)
  | zone (s : String)
  | pattern (s : String)

/-- The part that a letter stands for. -/
def part? (t : Moment) (letter : Char) : Option Part :=
  let d := t.date
  let hour := t.daySecond / 3600
  let minute := t.daySecond / 60 % 60
  let second := t.daySecond % 60
  let hour12 := if hour % 12 = 0 then 12 else hour % 12
  let short (s : String) : String := (s.take 3).toString
  match letter with
  | 'Y' => some (.number d.year 1 '0')
  | 'C' => some (.number (Int.fdiv d.year 100) 2 '0')
  | 'y' => some (.number (d.year % 100) 2 '0')
  | 'm' => some (.number d.month 2 '0')
  | 'd' => some (.number d.day 2 '0')
  | 'e' => some (.number d.day 2 ' ')
  | 'H' => some (.number hour 2 '0')
  | 'k' => some (.number hour 2 ' ')
  | 'I' => some (.number hour12 2 '0')
  | 'l' => some (.number hour12 2 ' ')
  | 'M' => some (.number minute 2 '0')
  | 'S' => some (.number second 2 '0')
  | 's' => some (.number t.seconds 1 '0')
  | 'j' => some (.number (d.yearDay + 1) 3 '0')
  | 'u' => some (.number ((d.weekDay + 6) % 7 + 1 : Nat) 1 '0')
  | 'w' => some (.number d.weekDay 1 '0')
  | 'U' => some (.number ((d.yearDay + 7 - d.weekDay) / 7 : Nat) 2 '0')
  | 'W' => some (.number ((d.yearDay + 7 - (d.weekDay + 6) % 7) / 7 : Nat) 2 '0')
  | 'V' => some (.number d.week.2 2 '0')
  | 'G' => some (.number d.week.1 1 '0')
  | 'g' => some (.number (d.week.1 % 100) 2 '0')
  | 'a' => some (.name (short (Date.weekDayNames.getD d.weekDay "")))
  | 'A' => some (.name (Date.weekDayNames.getD d.weekDay ""))
  | 'b' => some (.name (short (Date.monthNames.getD (d.month - 1) "")))
  | 'h' => some (.name (short (Date.monthNames.getD (d.month - 1) "")))
  | 'B' => some (.name (Date.monthNames.getD (d.month - 1) ""))
  | 'p' => some (.name (if hour < 12 then "AM" else "PM"))
  | 'P' => some (.name (if hour < 12 then "am" else "pm"))
  | 'Z' => some (.name "UTC")
  | 'z' => some (.zone "+0000")
  | 'n' => some (.name "\n")
  | 't' => some (.name "\t")
  | '%' => some (.name "%")
  | 'F' => some (.pattern "%Y-%m-%d")
  | 'T' => some (.pattern "%H:%M:%S")
  | 'X' => some (.pattern "%H:%M:%S")
  | 'R' => some (.pattern "%H:%M")
  | 'r' => some (.pattern "%I:%M:%S %p")
  | 'D' => some (.pattern "%m/%d/%y")
  | 'x' => some (.pattern "%m/%d/%y")
  | 'c' => some (.pattern "%a %b %e %H:%M:%S %Y")
  | 'v' => some (.pattern "%e-%b-%Y")
  | _ => none

/-- How a part is told in another way: its flags and its width. -/
structure Manner where
  flags : List Char
  width : Option Nat

/-- A text that is padded in front. -/
def fill (c : Char) (width : Nat) (s : String) : String :=
  String.ofList (List.replicate (width - s.length) c) ++ s

/-- A number in its manner. -/
def tellNumber (how : Manner) (n : Int) (width : Nat) (usual : Char) : String :=
  let padding := how.flags.find? fun c => c = '-' ∨ c = '_' ∨ c = '0'
  let width := how.width.getD (if padding = some '-' then 0 else width)
  let sign := if n < 0 then "-" else ""
  let digits := String.ofList (Nat.toDigits 10 n.natAbs)
  if (padding.getD usual) = '_' ∨ (padding.getD usual) = ' ' then fill ' ' width (sign ++ digits)
  else sign ++ fill '0' (width - sign.length) digits

/-- A name in its manner. -/
def tellName (how : Manner) (letter : Char) (s : String) : String :=
  let s := if how.flags.contains '^' then s.map Char.toUpper
    else if how.flags.contains '#' then
      if letter = 'p' ∨ letter = 'Z' then s.map Char.toLower else s.map Char.toUpper
    else s
  fill (if how.flags.contains '0' then '0' else ' ') (how.width.getD 0) s

/-- The decimals of the second: nine digits, or as many as the manner says. -/
def tellDecimals (t : Moment) (how : Manner) : String :=
  let digits := fill '0' 9 (toString (t.nanos % 1000000000))
  match how.width with
  | some n => (digits.take n).toString
  | none =>
    if how.flags.contains '-' then
      let kept := (digits.toList.reverse.dropWhile (· = '0')).reverse
      if kept.isEmpty then "0" else String.ofList kept
    else digits

/-- The moment as a pattern tells it. The first argument bounds the steps, the second tells whether
the decimals of the second and offsets with colons are known. -/
def tellChars (t : Moment) (knowsMore : Bool) : Nat → List Char → String
  | 0, _ => ""
  | _ + 1, [] => ""
  | n + 1, '%' :: cs =>
    let flags := cs.takeWhile fun c => ['-', '_', '0', '^', '#', '+'].contains c
    let rest := cs.drop flags.length
    let digits := rest.takeWhile Char.isDigit
    let rest := rest.drop digits.length
    let how : Manner := ⟨flags, if digits.isEmpty then none
      else some (digits.foldl (fun n c => 10 * n + (c.toNat - 48)) 0)⟩
    let rest := if rest.head? = some 'E' ∨ rest.head? = some 'O' then rest.tail else rest
    match rest with
    | ':' :: 'z' :: rest =>
      (if knowsMore then "+00:00" else "%:z") ++ tellChars t knowsMore n rest
    | ':' :: ':' :: 'z' :: rest =>
      (if knowsMore then "+00:00:00" else "%::z") ++ tellChars t knowsMore n rest
    | 'N' :: rest =>
      (if knowsMore then t.tellDecimals how else "%N") ++ tellChars t knowsMore n rest
    | letter :: rest =>
      (match t.part? letter with
        | some (.number value width usual) => tellNumber how value width usual
        | some (.name s) => tellName how letter s
        | some (.zone s) => s
        | some (.pattern p) => tellName how letter (tellChars t knowsMore n p.toList)
        | none =>
          String.ofList ('%' :: cs.take (cs.length - rest.length))) ++ tellChars t knowsMore n rest
    | [] => String.ofList ('%' :: cs)
  | n + 1, c :: cs => c.toString ++ tellChars t knowsMore n cs

/-- The moment as a pattern tells it. -/
def tell (t : Moment) (knowsMore : Bool) (pattern : String) : String :=
  t.tellChars knowsMore (pattern.length + 20) pattern.toList

/-! ## Reading -/

/-- Digits in front of a text, as a number. -/
def digits? (cs : List Char) : Option (Nat × List Char) :=
  let ds := cs.takeWhile Char.isDigit
  if ds.isEmpty then none
  else some (ds.foldl (fun n c => 10 * n + (c.toNat - 48)) 0, cs.drop ds.length)

/-- Numbers with a character between each two, of which the last ones may be missing. -/
def numbers? (separator : Char) : Nat → List Char → Option (List Nat)
  | 0, _ => none
  | n + 1, cs =>
    (digits? cs).bind fun (value, rest) =>
      match rest with
      | [] => some [value]
      | c :: rest => if c = separator then (numbers? separator n rest).map (value :: ·) else none

/-- The date in a word. -/
def dateOf? (word : String) : Option Date :=
  match numbers? '-' 3 word.toList with
  | some [year, month, day] =>
    let d : Date := ⟨year, month, day⟩
    if d.isValid then some d else none
  | _ => none

/-- The second of the day in a word. -/
def timeOf? (word : String) : Option Nat :=
  let word := if word.endsWith "Z" then (word.dropEnd 1).toString else word
  match numbers? ':' 3 word.toList with
  | some [hour, minute] =>
    if hour < 24 ∧ minute < 60 then some (hour * 3600 + minute * 60)
    else none
  | some [hour, minute, second] =>
    if hour < 24 ∧ minute < 60 ∧ second ≤ 60 then some (hour * 3600 + minute * 60 + second)
      else none
  | _ => none

/-- A moment that lies some units after another one. -/
def after? (t : Moment) (n : Int) (unit : String) : Option Moment :=
  let unit := if unit.endsWith "s" then (unit.dropEnd 1).toString else unit
  let months (k : Int) : Moment :=
    let d := t.date
    let index := d.year * 12 + (d.month - 1 : Nat) + k
    let first : Date := ⟨Int.fdiv index 12, (index % 12).toNat + 1, 1⟩
    ⟨t.nanos + (first.toDays + (d.day - 1 : Nat) - d.toDays) * 86400 * 1000000000⟩
  let later (k : Int) : Option Moment := some ⟨t.nanos + k * 1000000000⟩
  match unit with
  | "sec" => later n
  | "second" => later n
  | "min" => later (60 * n)
  | "minute" => later (60 * n)
  | "hour" => later (3600 * n)
  | "day" => later (86400 * n)
  | "week" => later (7 * 86400 * n)
  | "fortnight" => later (14 * 86400 * n)
  | "month" => some (months n)
  | "year" => some (months (12 * n))
  | _ => none

/-- A number with a sign perhaps. -/
def step? (word : String) : Option Int :=
  match word.toList with
  | '-' :: cs => (digits? cs).bind fun (n, rest) => if rest.isEmpty then some (-(n : Int)) else none
  | '+' :: cs => (digits? cs).bind fun (n, rest) => if rest.isEmpty then some (n : Int) else none
  | cs => (digits? cs).bind fun (n, rest) => if rest.isEmpty then some (n : Int) else none

/-- The month that a word names, by the beginning of its name. -/
def monthOf? (word : String) : Option Nat :=
  if word.length < 3 then none
  else
    (Date.monthNames.findIdx? fun name => (name.map Char.toLower).startsWith word).map (· + 1)

/-- The date whose month is named, and what is left: the day stands before or after it, and the year
may follow. -/
def namedDate? (now : Moment) (word : String) (rest : List String) : Option (Date × List String) :=
  let number (w : String) : Option Nat :=
    let w := if w.endsWith "," then (w.dropEnd 1).toString else w
    (digits? w.toList).bind fun (n, left) => if left.isEmpty then some n else none
  let found (day month : Nat) (rest : List String) : Option (Date × List String) :=
    let (year, rest) : Int × List String := match rest with
      | w :: more => match number w with
        | some y => if w.length = 4 then ((y : Int), more) else (now.date.year, rest)
        | none => (now.date.year, rest)
      | [] => (now.date.year, [])
    let d : Date := ⟨year, month, day⟩
    if d.isValid then some (d, rest) else none
  match number word, monthOf? word, rest with
  | some day, _, next :: rest => (monthOf? next).bind fun month => found day month rest
  | none, some month, next :: rest => (number next).bind fun day => found day month rest
  | _, _, _ => none

/-- The moment that some words tell, starting from another one. -/
def readWords (now : Moment) : Nat → Moment → List String → Option Moment
  | 0, _, _ => none
  | _ + 1, t, [] => some t
  | n + 1, t, word :: rest =>
    let midnight (d : Date) : Moment := .ofParts d 0 0 0
    match word with
    | "now" => readWords now n t rest
    | "today" => readWords now n t rest
    | "utc" => readWords now n t rest
    | "gmt" => readWords now n t rest
    | "z" => readWords now n t rest
    | "yesterday" => (t.after? (-1) "day").bind fun t => readWords now n t rest
    | "tomorrow" => (t.after? 1 "day").bind fun t => readWords now n t rest
    | "midnight" => readWords now n (midnight t.date) rest
    | _ =>
      match (dateOf? word).map (·, rest) |>.or (namedDate? now word rest) with
      | some (d, rest) => readWords now n (midnight d) rest
      | none =>
        match timeOf? word.toUpper with
        | some second => readWords now n ⟨(midnight t.date).nanos + second * 1000000000⟩ rest
        | none =>
          let (count, units) : Option Int × List String :=
            if word = "next" then (some 1, rest)
            else if word = "last" then (some (-1), rest)
            else match step? word with
              | some k => (some k, rest)
              | none => (some 1, word :: rest)
          match count, units with
          | some k, unit :: "ago" :: rest => (t.after? (-k) unit).bind fun t =>
            readWords now n t rest
          | some k, unit :: rest => (t.after? k unit).bind fun t => readWords now n t rest
          | _, _ => none

/-- The moment that a text tells: the seconds since 1970 began, or a date, a time and steps from
there. -/
def read? (now : Moment) (text : String) : Option Moment :=
  match (text.trimAscii.toString).toList with
  | '@' :: cs =>
    let (negative, cs) := match cs with
      | '-' :: cs => (true, cs)
      | cs => (false, cs)
    (digits? cs).bind fun (n, rest) =>
      let decimals : Option Nat := match rest with
        | [] => some 0
        | '.' :: ds =>
          if ds.all Char.isDigit then
            some (((ds ++ List.replicate 9 '0').take 9).foldl (fun n c => 10 * n + (c.toNat - 48))
              0)
          else none
        | _ => none
      decimals.map fun k =>
        let nanos : Int := n * 1000000000 + k
        ⟨if negative then -nanos else nanos⟩
  | cs =>
    -- a date and a time may be joined by a letter
    let rec parted : List Char → List Char
      | a :: 'T' :: b :: rest =>
        if a.isDigit && b.isDigit then a :: ' ' :: b :: rest
        else a :: parted ('T' :: b :: rest)
      | c :: rest => c :: parted rest
      | [] => []
    let words := (Text.split ' ' ((String.ofList (parted cs)).map Char.toLower)).filter (· != "")
    if words.isEmpty then some (.ofParts now.date 0 0 0)
    else readWords now (words.length + 1) now words

end Moment

end CiHarness
