import CiHarness.Host.Format
import CiHarness.Host.Tool.Basic

/-!
# Programs that write

Programs that write what their arguments say: texts, formats, numbers in sequence, parts of paths,
and what is known of the environment.
-/
namespace CiHarness.Tool

/-- Arguments with a blank between each two. -/
def spaced (args : List String) : String := " ".intercalate args

/-! ## Texts and formats -/

/-- Leading options of the form of `-neE`: whether a line break follows, whether escapes count, and
what is left. -/
def echoOptions : Bool → Bool → List String → Bool × Bool × List String
  | newline, escapes, [] => (newline, escapes, [])
  | newline, escapes, arg :: rest =>
    match arg.toList with
    | '-' :: c :: cs =>
      if (c :: cs).all fun c => c = 'n' || c = 'e' || c = 'E' then
        let escapes := match ((c :: cs).filter (· != 'n')).getLast? with
          | some c => c = 'e'
          | none => escapes
        echoOptions (newline && !(c :: cs).contains 'n') escapes rest
      else (newline, escapes, arg :: rest)
    | _ => (newline, escapes, arg :: rest)

/-- The escapes of the program that writes its arguments, if they are asked for. -/
def echoEscapes : Escapes := ⟨true, true, [], ['e'], true, false, true⟩

/-- The same as it is built into the extended shell. -/
def echoEscapesExtended : Escapes := ⟨true, false, [], ['e', 'E'], true, true, true⟩

/-- A text with escapes replaced, and a line break unless output was ended. -/
def escaped (e : Escapes) (text : String) (newline : Bool) : String :=
  let (cs, stops) := e.replace text.toList
  String.ofList cs ++ if newline && !stops then "\n" else ""

/-- The arguments on one line, as the program writes them. -/
def echoText (e : Escapes) (args : List String) : String :=
  let (newline, escapes, operands) := echoOptions true false args
  if escapes then escaped e (spaced operands) newline
  else spaced operands ++ if newline then "\n" else ""

/-- The same as it is built into the plain shell, where escapes always count. -/
def echoPlain (args : List String) : String :=
  match args with
  | "-n" :: rest => escaped FormatDialect.builtIn.argumentEscapes (spaced rest) false
  | _ => escaped FormatDialect.builtIn.argumentEscapes (spaced args) true

def runEcho : Utility := fun _ _ args => .done (.ofText 0 (echoText echoEscapes args))

/-- A format with its arguments, and the complaints under the program's name. -/
def formatted (d : FormatDialect) (name format : String) (args : List String) : Effect :=
  let (status, text, complaints) := d.render format args
  .ofBoth status (complaints.map fun words => name ++ ": " ++ words) text

def runPrintf : Utility := fun _ name args =>
  match args with
  | "--" :: f :: args => .done (formatted .standalone name f args)
  | f :: args => .done (formatted .standalone name f args)
  | [] => .done (.ofComplaint 1 (name ++ ": missing operand\nTry '" ++ name ++
      " --help' for more information."))

def runYes : Utility := fun _ _ args =>
  .repeating ((if args.isEmpty then "y" else spaced args) ++ "\n")

/-! ## Numbers in sequence -/

/-- A number as it is written: its digits without the point, and how many of them are places. -/
structure Written where
  value : Int
  places : Nat

/-- A number of decimal digits, with a point and an exponent perhaps. -/
def Written.read? (s : String) : Option Written :=
  let (negative, cs) := match s.toList with
    | '-' :: cs => (true, cs)
    | '+' :: cs => (false, cs)
    | cs => (false, cs)
  let (mantissa, exponent) := match cs.span fun c => c != 'e' && c != 'E' with
    | (m, []) => (m, some 0)
    | (m, _ :: e) => (m, integer? (String.ofList e))
  let whole := mantissa.takeWhile (· != '.')
  let fraction := (mantissa.drop whole.length).tail
  let digits := whole ++ fraction
  if digits.isEmpty || !digits.all Char.isDigit then none
  else
    exponent.map fun e =>
      let n : Int := digits.foldl (fun n c => 10 * n + (c.toNat - 48)) 0
      let n := if negative then -n else n
      let places : Int := fraction.length - e
      if places < 0 then ⟨n * Int.pow 10 (-places).toNat, 0⟩ else ⟨n, places.toNat⟩

/-- A number with a fixed number of places. -/
def decimalText (n : Int) (places width : Nat) : String :=
  let digits := Nat.toDigits 10 n.natAbs
  let digits := List.replicate (places + 1 - digits.length) '0' ++ digits
  let whole := digits.take (digits.length - places)
  let body := String.ofList (if places = 0 then whole else whole ++ '.' :: digits.drop whole.length)
  let sign := if n < 0 then "-" else ""
  sign ++ String.ofList (List.replicate (width - sign.length - body.length) '0') ++ body

def runSeq : Utility :=
  fun s name args =>
    -- a negative number is no option
    let isNumber (arg : String) : Bool := (Written.read? arg).isSome
    let rec protect : List String → List String
      | [] => []
      | "-s" :: v :: rest => "-s" :: v :: protect rest
      | "-f" :: v :: rest => "-f" :: v :: protect rest
      | arg :: rest => if isNumber arg then "--" :: arg :: rest else arg :: protect rest
    withOptions (Grammar.ofText "s:f:w" [("separator", 's'), ("format", 'f'), ("equal-width", 'w')]
      false) 1 (fun _ name o => .done (lines name o)) s name (protect args)
where
  lines (name : String) (o : Options) : Effect :=
    let help := "\nTry '" ++ name ++ " --help' for more information."
    match o.operands.find? fun arg => (Written.read? arg).isNone with
    | some arg =>
      .ofComplaint 1 (name ++ ": invalid floating point argument: '" ++ arg ++ "'" ++ help)
    | none =>
      let one : Written := ⟨1, 0⟩
      let go (first step last : Written) : Effect :=
        if step.value = 0 then
          .ofComplaint 1 (name ++ ": invalid Zero increment value: '" ++
            (o.operands.getD 1 "0") ++ "'" ++ help)
        else
          let places := max first.places step.places
          let scale := max places last.places
          let scaled (n : Written) : Int := n.value * Int.pow 10 (scale - n.places)
          let (a, d, b) := (scaled first, scaled step, scaled last)
          let count := ((b - a) / d + 1).toNat
          let unit : Int := Int.pow 10 (scale - places)
          let numbers := (List.range count).map fun (i : Nat) => (a + i * d) / unit
          let width := if o.has 'w' then
              let size (n : Int) := (decimalText n places 0).length
              max (size (a / unit)) (size ((a + (count - 1) * d) / unit))
            else 0
          let text (n : Int) : String :=
            match o.value? 'f' with
            | some f => (FormatDialect.standalone.render f [decimalText n places 0]).2.1
            | none => decimalText n places width
          let separator := (o.value? 's').getD "\n"
          if numbers.isEmpty then .ofStatus 0
          else .ofText 0 (numbers.foldl (fun (s, isFirst) n =>
            ((if isFirst then s else s ++ separator) ++ text n, false)) ("", true) |>.1.push '\n')
      match o.operands.filterMap Written.read? with
      | [last] => go one one last
      | [first, last] => go first one last
      | [first, step, last] => go first step last
      | [] => .ofComplaint 1 (name ++ ": missing operand" ++ help)
      | _ => .ofComplaint 1 (name ++ ": extra operand '" ++ o.operands.getD 3 "" ++ "'" ++ help)

/-! ## Parts of paths -/

/-- A path without slashes at its end, but for the root. -/
def withoutSlashes (path : String) : String :=
  let cs := path.toList.reverse.dropWhile (· = '/')
  if cs.isEmpty then if path = "" then "" else "/" else String.ofList cs.reverse

/-- The last name of a path. -/
def baseName (path : String) : String :=
  let trimmed := withoutSlashes path
  if trimmed = "/" then trimmed
  else String.ofList (trimmed.toList.reverse.takeWhile (· != '/')).reverse

/-- The path that leads to the last name of a path. -/
def dirName (path : String) : String :=
  let trimmed := withoutSlashes path
  let before := trimmed.toList.reverse.dropWhile (· != '/')
  if before.isEmpty then "." else
    let before := before.dropWhile (· = '/')
    if before.isEmpty then "/" else String.ofList before.reverse

/-- A name without an ending, unless nothing would be left. -/
def withoutEnding (ending name : String) : String :=
  if ending != "" && name.endsWith ending && name != ending then
    (name.dropEnd ending.length).toString
  else name

/-- What is said if operands are missing or too many. -/
def operandComplaint (name : String) (extra : Option String) : Behaviour :=
  .done (.ofComplaint 1 (name ++ ": " ++ (match extra with
    | none => "missing operand"
    | some arg => "extra operand '" ++ arg ++ "'") ++
    "\nTry '" ++ name ++ " --help' for more information."))

def runBasename : Utility :=
  withOptions (Grammar.ofText "as:z" [("multiple", 'a'), ("suffix", 's'), ("zero", 'z')] false) 1
    fun _ name o =>
      let mark := if o.has 'z' then "\x00" else "\n"
      let all (ending : String) (paths : List String) : Behaviour :=
        .done (.ofText 0 (String.join
          (paths.map fun p => withoutEnding ending (baseName p) ++ mark)))
      match o.operands with
      | [] => operandComplaint name none
      | paths =>
        match o.value? 's' with
        | some ending => all ending paths
        | none =>
          if o.has 'a' then all "" paths
          else
            match paths with
            | [path] => all "" [path]
            | [path, ending] => all ending [path]
            | _ => operandComplaint name paths[2]?

def runDirname : Utility :=
  withOptions (Grammar.ofText "z" [("zero", 'z')] true) 1 fun _ name o =>
    let mark := if o.has 'z' then "\x00" else "\n"
    if o.operands.isEmpty then operandComplaint name none
    else .done (.ofText 0 (String.join (o.operands.map fun p => dirName p ++ mark)))

/-! ## What is known -/

def runSucceed : Utility := fun _ _ _ => .done (.ofStatus 0)

def runFail : Utility := fun _ _ _ => .done (.ofStatus 1)

/-- The working directory: the way that the environment tells if that leads there, if it is asked
for. -/
def runPwd : Utility :=
  withOptions (Grammar.ofText "LP" [("logical", 'L'), ("physical", 'P')] true) 1 fun s _ o =>
    let here := Octets.ofText s.cwd.toPath.text
    let way := match o.last? ['L', 'P'], s.environment.lookup "PWD" with
      | some 'L', some way =>
        if way.startsWith "/" && (s.find way).toOption.any (·.1 = s.cwd) then way else here
      | _, _ => here
    .done (.ofText 0 (way ++ "\n"))

/-- The environment, one variable a line. -/
def environmentText (environment : List (String × String)) : String :=
  Octets.unlines (environment.map fun (name, value) => name ++ "=" ++ value)

def runPrintenv : Utility := fun s _ args =>
  if args.isEmpty then .done (.ofText 0 (environmentText s.environment))
  else
    let values := args.map (s.environment.lookup ·)
    .done (.ofText (if values.all Option.isSome then 0 else 1)
      (Octets.unlines (values.filterMap id)))

/-- A duration in seconds with an optional unit, in microseconds. -/
def duration? (s : String) : Option Nat :=
  let (body, unit) := match s.toList.getLast? with
    | some 's' => ((s.dropEnd 1).toString, 1)
    | some 'm' => ((s.dropEnd 1).toString, 60)
    | some 'h' => ((s.dropEnd 1).toString, 3600)
    | some 'd' => ((s.dropEnd 1).toString, 86400)
    | _ => (s, 1)
  if body = "inf" || body = "infinity" then some (Nat.pow 10 18)
  else
    (Written.read? body).bind fun n =>
      if n.value < 0 then none
      else some ((n.value.toNat * unit * 1000000) / Nat.pow 10 n.places)

def runSleep : Utility := fun _ name args =>
  let args := if args.head? = some "--" then args.tail else args
  let help := "\nTry '" ++ name ++ " --help' for more information."
  match args.filter fun arg => (duration? arg).isNone with
  | [] =>
    if args.isEmpty then operandComplaint name none
    else .sleeping ((args.filterMap duration?).foldl (· + ·) 0)
  | bad =>
    .done (.ofComplaint 1 ("\n".intercalate (bad.map fun arg =>
      name ++ ": invalid time interval '" ++ arg ++ "'") ++ help))

def runWhoami : Utility := fun _ _ _ => .done (.ofText 0 "root\n")

def runId : Utility :=
  withOptions (Grammar.ofText "ugGnr" [("user", 'u'), ("group", 'g'), ("groups", 'G'),
    ("name", 'n'), ("real", 'r')] true) 1 fun _ _ o =>
      .done (.ofText 0 (
        if o.has 'u' || o.has 'g' || o.has 'G' then if o.has 'n' then "root\n" else "0\n"
        else "uid=0(root) gid=0(root) groups=0(root)\n"))

/-- The program that tells the groups of users. -/
def runGroups : Utility := fun _ _ args =>
  .done (.ofText 0 (if args.isEmpty then "root\n" else Octets.unlines (args.map (· ++ " : root"))))

/-- The program that tells who has logged in, which is nobody. -/
def runLogname : Utility := fun _ name _ => .done (.ofComplaint 1 (name ++ ": no login name"))

def runUname : Utility :=
  withOptions (Grammar.ofText "srmopni" [("kernel-name", 's'), ("machine", 'm')] true) 1
    fun _ _ o =>
    .done (.ofText 0 (if o.has 'm' || o.has 'p' || o.has 'i' then "x86_64\n" else
      if o.has 'o' then "GNU/Linux\n" else "Linux\n"))

def runNproc : Utility := fun _ _ _ => .done (.ofText 0 "1\n")

def runArch : Utility := fun _ _ _ => .done (.ofText 0 "x86_64\n")

def runTty : Utility :=
  withOptions (Grammar.ofText "s" [("silent", 's'), ("quiet", 's')] true) 2 fun _ _ o =>
    .done (.ofText 1 (if o.has 's' then "" else "not a tty\n"))

/-- The prime factors of a number, the smallest first. -/
def primeFactors : Nat → Nat → Nat → List Nat
  | 0, n, _ => if 1 < n then [n] else []
  | fuel + 1, n, d =>
    if n < 2 then []
    else if n < d * d then [n]
    else if n % d = 0 then d :: primeFactors fuel (n / d) d
    else primeFactors fuel n (d + 1)

def runFactor : Utility := fun _ name args =>
  let lines (args : List String) : Effect :=
    let results := args.map fun arg => (arg, decimal? arg)
    .ofBoth (if results.all (·.2.isSome) then 0 else 1)
      (results.filterMap fun (arg, n) => if n.isNone
        then some (name ++ ": '" ++ arg ++ "' is not a valid positive integer") else none)
      (Octets.unlines (results.filterMap fun (_, n) => n.map fun n =>
        toString n ++ ":" ++
          String.join ((primeFactors 100000 n 2).map fun p => " " ++ toString p)))
  if args.isEmpty then
    .reading fun input =>
      lines ((input.text.splitToList fun c => c = ' ' || c = '\n' || c = '\t').filter (· != ""))
  else .done (lines args)

end CiHarness.Tool
