import CiHarness.Host.Calendar
import CiHarness.Host.Tool.Basic

/-!
# Programs that tell and set dates

One program tells the present moment, or another one that is described to it, by a pattern; another
one sets the times of files, to the present moment, to a described one or to that of another file.
-/
namespace CiHarness.Tool

/-- The moment that a host's clock shows. -/
def present (s : Surroundings) : Moment := .ofClock s.clock

/-- The pattern by which the date is told if none is given. -/
def usualPattern : String := "%a %b %e %H:%M:%S %Z %Y"

/-- The pattern of a standard form, which tells as much as its name says. -/
def standardPattern? (between : String) (precision : String) : Option String :=
  match precision with
  | "" => some "%F"
  | "date" => some "%F"
  | "hours" => some ("%F" ++ between ++ "%H%:z")
  | "minutes" => some ("%F" ++ between ++ "%R%:z")
  | "seconds" => some ("%F" ++ between ++ "%T%:z")
  | "ns" => some ("%F" ++ between ++ "%T" ++ (if between = " " then "." else ",") ++ "%N%:z")
  | _ => none

/-- What is said of words that describe no moment. -/
def invalidDate (name text : String) : Effect :=
  .ofComplaint 1 (name ++ ": invalid date '" ++ text ++ "'")

def runDate : Utility := fun s name args =>
  let spelled := args.map fun arg =>
    if arg.startsWith "-I" then "--iso-8601=" ++ (arg.drop 2).toString
    else if arg = "--iso-8601" then "--iso-8601=" else arg
  withOptions (Grammar.ofText "ud:Rr:z:3:s:" [("utc", 'u'), ("universal", 'u'), ("date", 'd'),
      ("rfc-email", 'R'), ("reference", 'r'), ("iso-8601", 'z'), ("rfc-3339", '3'), ("set", 's')]
        true) 1
    (fun s name o => .done <|
      let moment : Except Effect Moment :=
        match o.value? 'd', o.value? 'r' with
        | some text, _ =>
          match Moment.read? (present s) text with
          | some t => .ok t
          | none => .error (invalidDate name text)
        | none, some path =>
          match s.find path with
          | .ok (_, e) => .ok (.ofClock e.time)
          | .error e => .error (.ofComplaint 1 (name ++ ": " ++ path ++ ": " ++ e.words))
        | none, none => .ok (present s)
      let pattern : Except Effect String :=
        match o.operands, o.value? 'z', o.value? '3' with
        | [], some precision, _ => known precision (standardPattern? "T" precision)
        | [], none, some precision => known precision (standardPattern? " " precision)
        | [], none, none => .ok (if o.has 'R' then "%a, %d %b %Y %H:%M:%S %z" else usualPattern)
        | [operand], _, _ =>
          if operand.startsWith "+" then .ok (operand.drop 1).toString
            else .error (invalidDate name operand)
        | _ :: operand :: _, _, _ =>
          .error (.ofComplaint 1 (name ++ ": extra operand '" ++ operand ++ "'" ++ hint name))
      match moment, pattern with
      | .ok t, .ok p => .ofText 0 (t.tell true p ++ "\n")
      | .error e, _ => e
      | _, .error e => e)
    s name spelled
where
  hint (name : String) : String := "\nTry '" ++ name ++ " --help' for more information."
  known (precision : String) (pattern : Option String) : Except Effect String :=
    match pattern with
    | some p => .ok p
    | none =>
      .error (.ofComplaint 1 ("date: invalid argument '" ++ precision ++ "'" ++ hint "date"))

/-- The clock at a moment that digits tell: a year perhaps, then month, day, hour and minute, and
seconds after a point. -/
def stamp? (now : Moment) (text : String) : Option Nat :=
  let (body, second?) := match Text.splitOnce '.' text with
    | some (body, second) => (body, if second.length = 2 then decimal? second else none)
    | none => (text, some 0)
  let digits := body.toList
  if !digits.all Char.isDigit then none
  else
    let pairs (n : Nat) : Nat :=
      ((digits.drop (digits.length - 8 + 2 * n)).take 2).foldl (fun n c => 10 * n + (c.toNat - 48))
      0
    let front := (digits.take (digits.length - 8)).foldl (fun n c => 10 * n + (c.toNat - 48)) 0
    let year? : Option Int :=
      if digits.length = 8 then some now.date.year
      else if digits.length = 10 then
        some ((if front < 69 then 2000 + front else 1900 + front : Nat) : Int)
      else if digits.length = 12 then some front
      else none
    match year?, second? with
    | some year, some second =>
      let d : Date := ⟨year, pairs 0, pairs 1⟩
      if d.isValid && pairs 2 < 24 && pairs 3 < 60 && second ≤ 60 then
        some (Moment.ofParts d (pairs 2) (pairs 3) second).clock
      else none
    | _, _ => none

end CiHarness.Tool
