import CiHarness.Host.Format
import CiHarness.Host.Tool.Awk.Syntax
import CiHarness.Host.Tool.Lines
import Std.Data.HashMap

/-!
# Programs over records, as they run

Records are read one after another and cut into fields; every rule whose pattern chooses the record
is performed. A value is a number or a text, and a text that was read may count as a number if it
looks like one. Variables hold values or tables of values.
-/
namespace CiHarness.Awk

/-! ## Numbers as text -/

/-- The fraction that a machine number is. -/
def fractionOf (x : Float) : Fraction :=
  let bits := x.toBits.toNat
  let negative := bits / Nat.pow 2 63 = 1
  let exponent : Nat := bits / Nat.pow 2 52 % 2048
  let low := bits % Nat.pow 2 52
  let (m, e) : Nat × Int := if exponent = 0 then (low, -1074)
    else (low + Nat.pow 2 52, (exponent : Int) - 1075)
  if 0 ≤ e then ⟨negative, m * Nat.pow 2 e.toNat, 1⟩ else ⟨negative, m, Nat.pow 2 (-e).toNat⟩

/-- The nearest machine number to a fraction that has no more digits than it. -/
def floatOf (q : Fraction) : Float :=
  let q := q.rounded 53
  let size :=
    -- a quotient by a power of two
    Float.scaleB (Float.ofNat q.numerator) (-(Nat.log2 q.denominator : Int))
  if q.negative then -size else size

/-- Whether a number has no places. -/
def isWhole (x : Float) : Bool := x == x.floor && x.abs < 1e16

/-- The whole number that a machine number begins with. -/
def wholeOf (x : Float) : Int := (fractionOf x).truncated

/-- A number in a format with one conversion. -/
def numberIn (format : String) (x : Float) : String :=
  if x.isNaN then if x.toBits.toNat / Nat.pow 2 63 = 1 then "-nan" else "nan"
  else if x.isInf then if x < 0 then "-inf" else "inf"
  else
    match format.toList with
    | '%' :: cs =>
      match Conversion.read .builtIn cs with
      | .ok (c, rest) =>
        let (shape, _) := FormatPiece.settle c []
        let text := if ['d', 'i', 'u', 'o', 'x', 'X'].contains c.letter
          then shape.renderInteger (wholeOf x)
          else shape.renderFraction (fractionOf x)
        text ++ String.ofList rest
      | .error t => t
    | _ => format

/-! ## Values -/

inductive Value where
  | number (x : Float)
  | text (s : String)
  /-- A text that was read, and the number that it looks like. -/
  | read (s : String) (x : Float)
  | missing

namespace Value

/-- The number at the front of a text. -/
def frontNumber (s : String) : Float :=
  match Fraction.read? ((s.toList.dropWhile fun c => c = ' ' || c = '\t' || c = '\n')) with
  | some (q, _) => floatOf q
  | none => 0

/-- A text that was read. -/
def ofInput (s : String) : Value :=
  let cs := s.toList
  match cs.find? fun c => !(c = ' ' || c = '\t' || c = '\n') with
  | some c =>
    if c.isDigit || c = '-' || c = '+' || c = '.' then
      match Fraction.read? cs with
      | some (q, rest) =>
        if rest.all fun c => c = ' ' || c = '\t' || c = '\n' then .read s (floatOf q) else .text s
      | none => .text s
    else .text s
  | none => .text s

def toNumber : Value → Float
  | .number x => x
  | .text s => frontNumber s
  | .read _ x => x
  | .missing => 0

/-- A value as text; a number with places in a format. -/
def toText (format : String) : Value → String
  | .number x => if isWhole x then toString (wholeOf x) else numberIn format x
  | .text s => s
  | .read s _ => s
  | .missing => ""

def isTrue : Value → Bool
  | .number x => x != 0
  | .text s => s != ""
  | .read _ x => x != 0
  | .missing => false

def ofBool (b : Bool) : Value := .number (if b then 1 else 0)

/-- Values are compared as numbers if both can be, and otherwise as texts. -/
def compare (format : String) (a b : Value) : Ordering :=
  let isNumeric : Value → Bool
    | .text _ => false
    | _ => true
  if isNumeric a && isNumeric b then
    let (x, y) := (a.toNumber, b.toNumber)
    if x < y then .lt else if x == y then .eq else .gt
  else Ord.compare (a.toText format) (b.toText format)

end Value

/-- What a variable holds. -/
inductive Cell where
  | value (v : Value)
  | table (t : Std.HashMap String Value)
  | unused

/-- Why an action is not performed further. -/
inductive Signal where
  | nextRecord
  | leaving (status : Option Nat)
  | returning (v : Value)
  | leavingLoop
  | nextRound
  | fault (words : String)

structure Run where
  program : Program
  start : Starter
  setting : Setting
  world : World
  cells : Std.HashMap Nat Cell
  globals : List (String × Nat)
  locals : List (String × Nat)
  nextCell : Nat
  record : String
  fields : Array String
  /-- Records to come of the file at hand, and the arguments after it. -/
  records : List String
  arguments : List String
  hasRead : Bool
  /-- Files and commands that are read, each with the lines to come, and how a command ended. -/
  readers : List (String × List String)
  listeners : List (String × List String × Nat)
  /-- What is to be written to the standard output, to files and to commands; the command that was
  written to last comes first. -/
  out : String
  files : List (String × String)
  commands : List (String × String)
  status : Nat
  seed : Nat
  /-- The indices of the rules whose interval has begun. -/
  begun : List Nat

abbrev Exec := ExceptT Signal (StateM Run)

namespace Run

/-- Where a program reads and writes files. -/
def surroundings (r : Run) : Surroundings :=
  ⟨r.world.files, r.setting.cwd, r.setting.environment, r.world.clock, r.setting.mask⟩

def cell (r : Run) (name : String) : Option Nat := (r.locals.lookup name).or (r.globals.lookup name)

def global (r : Run) (name : String) : Value :=
  match (r.globals.lookup name).bind (r.cells[·]?) with
  | some (.value v) => v
  | _ => .missing

def conversion (r : Run) : String := ((r.global "CONVFMT").toText "%.6g")

end Run

/-- The cell of a variable, which is made if it is new. -/
def cellOf (name : String) : Exec Nat := do
  let r ← get
  match r.cell name with
  | some i => return i
  | none =>
    set { r with globals := (name, r.nextCell) :: r.globals, nextCell := r.nextCell + 1 }
    return r.nextCell

def setCell (i : Nat) (c : Cell) : Exec Unit := modify fun r =>
  { r with cells := r.cells.insert i c }

/-- The table of a variable. -/
def tableOf (name : String) : Exec (Nat × Std.HashMap String Value) := do
  let i ← cellOf name
  match (← get).cells[i]? with
  | some (.table t) => return (i, t)
  | some (.value .missing) => return (i, ∅)
  | some (.value _) => throw (.fault ("type error in use of " ++ name))
  | _ => return (i, ∅)

def textOf (v : Value) : Exec String := return v.toText (← get).conversion

/-! ## Records and fields -/

/-- A text cut at what matches a separator: blanks, one character, or an expression. -/
def cutFields (separator : String) (linesToo : Bool) (s : String) : List String :=
  if separator = " " then
    (s.splitToList fun c => c = ' ' || c = '\t' || c = '\n').filter (· != "")
  else if s = "" then []
  else
    let byRegex (pattern : String) : List String :=
      match Regex.ofText dialect pattern with
      | .error _ => [s]
      | .ok r =>
        let t := s.toList.toArray
        let found := (r.all t).filter fun f => f.start != f.stop
        let (parts, last) := found.foldl (fun (parts, last) f =>
          (Regex.between t last f.start :: parts, f.stop)) (([] : List String), 0)
        (Regex.between t last t.size :: parts).reverse
    match separator.toList with
    | [] => s.toList.map (·.toString)
    | [c] =>
      if linesToo then s.splitToList fun d => d = c || d = '\n' else Text.split c s
    | _ => byRegex separator

/-- The records of a text. -/
def cutRecords (separator : String) (s : String) : List String :=
  match separator.toList with
  | ['\n'] => Octets.bareLines s
  | [c] =>
    let parts := Text.split c s
    if parts.getLast? = some "" || parts.getLast? = some "\n" then parts.dropLast else
      match parts.getLast? with
      | some last =>
        parts.dropLast ++ [if last.endsWith "\n" then (last.dropEnd 1).toString else last]
      | none => parts
  | [] =>
    -- paragraphs with empty lines between them
    let lines := Octets.bareLines s
    ((lines.foldr (fun line (all : List (List String)) =>
      if line = "" then [] :: all
      else match all with
        | [] => [[line]]
        | p :: rest => (line :: p) :: rest) [[]]).filter (!·.isEmpty)).map fun p =>
          "\n".intercalate p
  | _ =>
    let parts := cutFields separator false s
    match parts.getLast? with
    | some "\n" => parts.dropLast
    | some "" => parts.dropLast
    | some last =>
      parts.dropLast ++ [if last.endsWith "\n" then (last.dropEnd 1).toString else last]
    | none => []

def setGlobal (name : String) (v : Value) : Exec Unit := do
  let r ← get
  match r.globals.lookup name with
  | some i => set { r with cells := r.cells.insert i (.value v) }
  | none =>
    set { r with
      globals := (name, r.nextCell) :: r.globals, nextCell := r.nextCell + 1,
      cells := r.cells.insert r.nextCell (.value v) }

/-- The record is set and cut. -/
def setRecord (s : String) : Exec Unit := do
  let r ← get
  let separator ← textOf (r.global "FS")
  let isParagraph := (← textOf (r.global "RS")) = ""
  set { r with record := s, fields := (cutFields separator isParagraph s).toArray }

/-- The record is put together from its fields. -/
def joinRecord : Exec Unit := do
  let joint ← textOf ((← get).global "OFS")
  modify fun r => { r with record := joint.intercalate r.fields.toList }

def setField (i : Nat) (s : String) : Exec Unit := do
  if i = 0 then setRecord s
  else
    modify fun r =>
      let fields := r.fields ++ Array.replicate (i - r.fields.size) ""
      { r with fields := fields.set! (i - 1) s }
    joinRecord

/-- Whether an argument sets a variable. -/
def setting? (arg : String) : Option (String × String) :=
  match Text.splitOnce '=' arg with
  | some (name, value) =>
    if name != "" && name.all isNameChar && !(name.toList.headD '0').isDigit then
      some (name, escapes.replaced value)
    else none
  | none => none

/-- All of the standard input. -/
def takeInput : Exec String := do
  let r ← get
  match r.setting.stream? 0 with
  | none => return ""
  | some stream =>
    let w := r.world.settle stream
    set { r with world := w.drain stream }
    return ((w.supply? stream).map Supply.text).getD ""

/-- The next record, if there is one. The first argument bounds the number of files. -/
def nextRecord : Nat → Exec (Option String)
  | 0 => return none
  | n + 1 => do
    let r ← get
    match r.records with
    | line :: rest =>
      set { r with records := rest }
      let count := (r.global "NR").toNumber + 1
      setGlobal "NR" (.number count)
      setGlobal "FNR" (.number ((r.global "FNR").toNumber + 1))
      return some line
    | [] =>
      let separator ← textOf (r.global "RS")
      let openInput : Exec (Option String) := do
        let text ← takeInput
        modify fun r => { r with records := cutRecords separator text, hasRead := true }
        setGlobal "FNR" (.number 0)
        if (← get).records.isEmpty then return none
        nextRecord n
      match r.arguments with
      | [] => if r.hasRead then return none else openInput
      | arg :: rest =>
        set { r with arguments := rest }
        match setting? arg with
        | some (name, value) =>
          setGlobal name (.ofInput value)
          nextRecord n
        | none =>
          if arg = "" then nextRecord n
          else if Tool.isInput arg then
            let text ← takeInput
            modify fun r => { r with records := cutRecords separator text, hasRead := true }
            setGlobal "FNR" (.number 0)
            setGlobal "FILENAME" (.text arg)
            nextRecord n
          else
            match r.surroundings.read arg with
            | .ok supply =>
              modify fun r => { r with
                records := cutRecords separator supply.text,
                hasRead := true }
              setGlobal "FNR" (.number 0)
              setGlobal "FILENAME" (.text arg)
              nextRecord n
            | .error fault => throw (.fault ("cannot open " ++ arg ++ " (" ++ fault.words ++ ")"))

/-! ## Output -/

/-- A file gets new contents. -/
def setFile (path : String) (text : String) : Exec Unit := do
  let r ← get
  match r.surroundings.writeFile path (Octets.toBytes text) with
  | .ok files => set { r with world := { r.world with files := files } }
  | .error _ => throw (.fault ("cannot open \"" ++ path ++ "\" for output"))

/-- What a file holds. -/
def contentOf (path : String) : Exec String :=
  return ((← get).surroundings.read path).toOption.elim "" (·.text)

/-- A text is written to a file, which is emptied when it is written to for the first time. -/
def writeTo (path : String) (appends : Bool) (text : String) : Exec Unit := do
  let r ← get
  if path = "/dev/stderr" then set { r with world := r.setting.write 2 text r.world }
  else if path = "/dev/stdout" || path = "-" then set { r with out := r.out ++ text }
  else
    match r.files.lookup path with
    | some pending =>
      set { r with files := (path, pending ++ text) :: r.files.filter (·.1 != path) }
    | none =>
      let old ← if appends then contentOf path else pure ""
      setFile path old
      modify fun r => { r with files := (path, text) :: r.files }

/-- What is to be written to files is written. -/
def flushFiles : Exec Unit := do
  for (path, text) in (← get).files.reverse do
    if text != "" then setFile path ((← contentOf path) ++ text)
  modify fun r => { r with files := r.files.map fun (path, _) => (path, "") }

/-- What is to be written is written. -/
def flush : Exec Unit := do
  let r ← get
  let (world, isTaken) := if r.out = "" then (r.world, true)
    else r.setting.descriptors.write r.world 1 r.out
  set { r with world := world, out := "" }
  if !isTaken then throw (.fault "write failure")
  flushFiles

/-! ## Commands -/

/-- The status of a process that ended. -/
def statusOf : Ending → Nat
  | .exited code => code.toNat
  | .killed signal => 256 + signal

/-- A command is run by the plain shell, with an input of its own perhaps. -/
def command (text : String) (input : Option String) : Exec Nat := do
  let r ← get
  let (setting, w) : Setting × World :=
    match input with
    | none => (r.setting, r.world)
    | some input =>
      let (stream, w) := r.world.openStream (.source (.ofBytes (Octets.toBytes input)))
      ({ r.setting with descriptors := r.setting.descriptors.connect 0 stream }, w)
  match r.start setting ["/bin/sh", "-c", text] w with
  | .ok (ending, w) =>
    set { r with world := w }
    return statusOf ending
  | .error _ => return 127

/-- A command is run for what it writes. -/
def listenTo (text : String) : Exec (String × Nat) := do
  flush
  let r ← get
  let (stream, w) := r.world.openSink
  set { r with
    world := w
    setting := { r.setting with descriptors := r.setting.descriptors.connect 1 stream } }
  let status ← command text none
  let after ← get
  let w := after.world.settle stream
  set { after with world := w, setting := r.setting }
  return ((w.collected stream).text, status)

/-- A text is written to a command, which runs when that is closed. -/
def writeToCommand (name text : String) : Exec Unit := do
  let r ← get
  match r.commands.lookup name with
  | some pending =>
    set { r with commands := (name, pending ++ text) :: r.commands.filter (·.1 != name) }
  | none =>
    flush
    modify fun r => { r with commands := (name, text) :: r.commands }

/-- A file or a command is closed; the status of the command is given, and −1 if nothing was
open. -/
def close (name : String) : Exec Int := do
  let r ← get
  if let some text := r.commands.lookup name then
    set { r with commands := r.commands.filter (·.1 != name) }
    return (← command name (some text) : Nat)
  if let some text := r.files.lookup name then
    if text != "" then setFile name ((← contentOf name) ++ text)
    modify fun r => { r with files := r.files.filter (·.1 != name) }
    return 0
  if let some (_, status) := r.listeners.lookup name then
    set { r with listeners := r.listeners.filter (·.1 != name) }
    return status
  if (r.readers.lookup name).isSome then
    set { r with readers := r.readers.filter (·.1 != name) }
    return 0
  return -1

/-- All commands that were written to are run, and all that is to be written is. -/
def closeAll : Exec Unit := do
  for (name, text) in (← get).commands do
    let _ ← command name (some text)
  flush

/-- A format with its arguments. The first argument bounds the number of conversions. -/
def format (conversion : String) : Nat → List Char → List Value → String
  | 0, _, _ => ""
  | _ + 1, [], _ => ""
  | n + 1, '%' :: '%' :: cs, args => "%" ++ format conversion n cs args
  | n + 1, '%' :: cs, args =>
    match Conversion.read .builtIn cs with
    | .error text => text
    | .ok (c, rest) =>
      let take (size : FormatSize) (args : List Value) : FormatSize × List Value :=
        match size, args with
        | .taken, v :: more => (.given (wholeOf v.toNumber).natAbs, more)
        | size, args => (size, args)
      let (width, others) := take c.width args
      let (precision, others) := take c.precision others
      let flags := match c.width, args with
        | .taken, v :: _ => if v.toNumber < 0 then '-' :: c.flags else c.flags
        | _, _ => c.flags
      let (shape, _) := FormatPiece.settle ⟨flags, width, precision, c.letter, ""⟩ []
      let v := others.headD .missing
      let cut (s : String) : String := shape.precision.elim s fun k =>
        String.ofList (s.toList.take k)
      let text :=
        if c.letter = 's' then shape.pad (cut (v.toText conversion))
        else if c.letter = 'c' then
          shape.pad (match v with
            | .number x => (Char.ofNat ((wholeOf x).toNat % 256)).toString
            | v => String.ofList ((v.toText conversion).toList.take 1))
        else if ['d', 'i', 'u', 'o', 'x', 'X'].contains c.letter then
          shape.renderInteger (wholeOf v.toNumber)
        else shape.renderFraction (fractionOf v.toNumber)
      text ++ format conversion n rest others.tail
  | n + 1, c :: cs, args => c.toString ++ format conversion n cs args

/-! ## Functions -/

/-- The replacement of a match: an ampersand that is not escaped stands for the match. -/
def replacement (text matched : String) : String := String.ofList (go text.toList)
where
  go : List Char → List Char
    | '\\' :: '&' :: cs => '&' :: go cs
    | '\\' :: '\\' :: cs => '\\' :: go cs
    | '&' :: cs => matched.toList ++ go cs
    | c :: cs => c :: go cs
    | [] => []

/-- A part of a text from a position on, of a length; both are rounded. -/
def substring (s : String) (start : Float) (count : Option Float) : String :=
  let round (x : Float) : Int := wholeOf ((x + 0.5).floor)
  let first := round start
  let last : Int := match count with
    | none => s.length + 1
    | some k => round (start + k)
  let front := max first 1
  if last ≤ front then ""
  else String.ofList ((s.toList.drop (front - 1).toNat).take (last - front).toNat)

/-- A rest with the sign of the first number. -/
def remainder (x y : Float) : Float :=
  if y == 0 then 0.0 / 0.0
  else
    let (p, q) := (fractionOf x, fractionOf y)
    let a := p.numerator * q.denominator
    let b := q.numerator * p.denominator
    floatOf ⟨p.negative, a % b, p.denominator * q.denominator⟩

def operate (op : Operator) (x y : Float) : Float :=
  match op with
  | .add => x + y
  | .subtract => x - y
  | .multiply => x * y
  | .divide => x / y
  | .remainder => remainder x y
  | .power => Float.pow x y

/-- The key of an element. -/
def keyOf (values : List String) (joint : String) : String := joint.intercalate values

mutual

/-- The value of an expression. The first argument bounds the depth. -/
def eval : Nat → Expr → Exec Value
  | 0, _ => throw (.fault "function call nesting too deep")
  | n + 1, e => do
    match e with
    | .number x => return .number x
    | .text s => return .text s
    | .regex r => return .ofBool (r.occursIn (← get).record)
    | .grouped e => eval n e
    | .field e =>
      let i := wholeOf (← eval n e).toNumber
      if i < 0 then throw (.fault ("attempt to access field " ++ toString i))
      let r ← get
      if i = 0 then return .ofInput r.record
      match r.fields[i.toNat - 1]? with
      | some s => return .ofInput s
      | none => return .missing
    | .var "NF" =>
      match (← get).locals.lookup "NF" with
      | some _ => variableValue "NF"
      | none => return .number (Float.ofNat (← get).fields.size)
    | .var name => variableValue name
    | .element name index =>
      let key ← indexKey n index
      let (i, t) ← tableOf name
      match t[key]? with
      | some v => return v
      | none =>
        setCell i (.table (t.insert key .missing))
        return .missing
    | .assign place op value =>
      let v ← eval n value
      let v ← match op with
        | none => pure v
        | some op =>
          let old ← eval n place
          if op = .divide && v.toNumber == 0 then throw (.fault "division by zero")
          pure (.number (operate op old.toNumber v.toNumber))
      store n place v
      return v
    | .step place isUp isAfter =>
      let old := (← eval n place).toNumber
      let v := if isUp then old + 1 else old - 1
      store n place (.number v)
      return .number (if isAfter then old else v)
    | .choice condition yes no => if (← eval n condition).isTrue then eval n yes else eval n no
    | .both a b =>
      if (← eval n a).isTrue then return .ofBool (← eval n b).isTrue
      else return .ofBool false
    | .either a b =>
      if (← eval n a).isTrue then return .ofBool true
      else return .ofBool (← eval n b).isTrue
    | .matching isNegated e pattern =>
      let s ← textOf (← eval n e)
      let r ← regexOf n pattern
      return .ofBool (r.occursIn s != isNegated)
    | .isIn index name =>
      let key ← indexKey n index
      let (_, t) ← tableOf name
      return .ofBool (t.contains key)
    | .comparison op a b =>
      let x ← eval n a
      let y ← eval n b
      let o := x.compare (← get).conversion y
      return .ofBool (match op with
        | .less => o == .lt
        | .lessOrEqual => o != .gt
        | .equal => o == .eq
        | .different => o != .eq
        | .greater => o == .gt
        | .greaterOrEqual => o != .lt)
    | .joined a b =>
      let x ← textOf (← eval n a)
      return .text (x ++ (← textOf (← eval n b)))
    | .binary op a b =>
      let x := (← eval n a).toNumber
      let y := (← eval n b).toNumber
      if op = .divide && y == 0 then throw (.fault "division by zero")
      if op = .remainder && y == 0 then throw (.fault "division by zero in %")
      return .number (operate op x y)
    | .negative e => return .number (-(← eval n e).toNumber)
    | .positive e => return .number (← eval n e).toNumber
    | .opposite e => return .ofBool !(← eval n e).isTrue
    | .call name args => if builtins.contains name then builtin n name args else invoke n name args
    | .getline place file => readLine n place file
    | .listen e place => listen n e place

/-- The value of a variable. -/
def variableValue (name : String) : Exec Value := do
  let r ← get
  match (r.cell name).bind (r.cells[·]?) with
  | some (.value v) => return v
  | some (.table _) => throw (.fault ("type error in use of " ++ name))
  | _ => return .missing

/-- The key of an index. -/
def indexKey : Nat → List Expr → Exec String
  | 0, _ => return ""
  | n + 1, index => do
    let mut keys : List String := []
    for e in index do
      keys := (← textOf (← eval n e)) :: keys
    return keyOf keys.reverse (← textOf ((← get).global "SUBSEP"))

/-- A place is set. -/
def store : Nat → Expr → Value → Exec Unit
  | 0, _, _ => return ()
  | n + 1, place, v => do
    match place with
    | .field e =>
      let i := wholeOf (← eval n e).toNumber
      if i < 0 then throw (.fault ("attempt to access field " ++ toString i))
      setField i.toNat (← textOf v)
    | .var name =>
      let r ← get
      if name = "NF" && (r.locals.lookup name).isNone then
        let k := (wholeOf v.toNumber).toNat
        set { r with fields := (r.fields.extract 0 k) ++ Array.replicate (k - r.fields.size) "" }
        joinRecord
      else setCell (← cellOf name) (.value v)
    | .element name index =>
      let key ← indexKey n index
      let (i, t) ← tableOf name
      -- the table is taken out of its cell first, so that it is changed in place
      setCell i .unused
      setCell i (.table (t.insert key v))
    | _ => throw (.fault "assignment to no place")

/-- An expression as a pattern. -/
def regexOf : Nat → Expr → Exec Regex
  | 0, _ => return .empty
  | n + 1, e => do
    match e with
    | .regex r => return r
    | e =>
      match Regex.ofText dialect (← textOf (← eval n e)) with
      | .ok r => return r
      | .error words => throw (.fault ("regular expression compile failed (" ++ words ++ ")"))

/-- A function that is known from the start. -/
def builtin : Nat → String → List Expr → Exec Value
  | 0, _, _ => return .missing
  | n + 1, name, args => do
    let arg (i : Nat) : Exec Value := match args[i]? with
      | some e => eval n e
      | none => return .missing
    let text (i : Nat) : Exec String := do textOf (← arg i)
    let number (i : Nat) : Exec Float := return (← arg i).toNumber
    match name with
    | "length" =>
      match args with
      | [] => return .number (Float.ofNat (← get).record.length)
      | [.var array] =>
        let r ← get
        match (r.cell array).bind (r.cells[·]?) with
        | some (.table t) => return .number (Float.ofNat t.size)
        | _ => return .number (Float.ofNat (← text 0).length)
      | _ => return .number (Float.ofNat (← text 0).length)
    | "substr" =>
      let s ← text 0
      let start ← number 1
      let count ← if 2 < args.length then some <$> number 2 else pure none
      return .text (substring s start count)
    | "index" =>
      let s ← text 0
      let t ← text 1
      let cs := s.toList
      let found := (List.range (cs.length + 1)).find? fun i => t.toList.isPrefixOf (cs.drop i)
      return .number (Float.ofNat (found.elim 0 (· + 1)))
    | "split" =>
      let s ← text 0
      let parts : List String ← match (args[2]? : Option Expr) with
        | some (.regex r) =>
          let t := s.toList.toArray
          let found := (r.all t).filter fun f => f.start != f.stop
          let (parts, last) := found.foldl (fun (parts, last) f =>
            (Regex.between t last f.start :: parts, f.stop)) (([] : List String), 0)
          pure (if s = "" then [] else (Regex.between t last t.size :: parts).reverse)
        | some e => do pure (cutFields (← textOf (← eval n e)) false s)
        | none => do pure (cutFields (← textOf ((← get).global "FS")) false s)
      match (args[1]? : Option Expr) with
      | some (.var array) =>
        let i ← cellOf array
        setCell i (.table (parts.zipIdx.foldl (fun t (part, i) =>
          t.insert (toString (i + 1)) (Value.ofInput part)) ∅))
        return .number (Float.ofNat parts.length)
      | _ => throw (.fault "split into no table")
    | "sub" => substitute n false args
    | "gsub" => substitute n true args
    | "match" =>
      let s ← text 0
      let r ← regexOf n (args.getD 1 (.text ""))
      let (start, count) : Int × Int := match r.find? s.toList.toArray 0 with
        | some f => ((f.start : Int) + 1, (f.stop : Int) - f.start)
        | none => (0, -1)
      setGlobal "RSTART" (.number (Float.ofInt start))
      setGlobal "RLENGTH" (.number (Float.ofInt count))
      return .number (Float.ofInt start)
    | "sprintf" =>
      let f ← text 0
      let mut values : List Value := []
      for e in args.tail do
        values := (← eval n e) :: values
      return .text (format (← get).conversion (f.length + 1) f.toList values.reverse)
    | "sin" => return .number (← number 0).sin
    | "cos" => return .number (← number 0).cos
    | "atan2" => return .number (Float.atan2 (← number 0) (← number 1))
    | "exp" => return .number (← number 0).exp
    | "log" => return .number (← number 0).log
    | "sqrt" => return .number (← number 0).sqrt
    | "int" =>
      let x ← number 0
      return .number (if x < 0 then x.ceil else x.floor)
    | "rand" =>
      let r ← get
      let seed := (r.seed * 1103515245 + 12345) % 2147483648
      set { r with seed := seed }
      return .number (Float.ofNat seed / 2147483648)
    | "srand" =>
      let r ← get
      let seed := (wholeOf (← number 0)).toNat
      set { r with seed := seed }
      return .number (Float.ofNat r.seed)
    | "tolower" => return .text ((← text 0).map Char.toLower)
    | "toupper" => return .text ((← text 0).map Char.toUpper)
    | "close" => return .number (Float.ofInt (← close (← text 0)))
    | "system" =>
      let words ← text 0
      flush
      return .number (Float.ofNat (← command words none))
    | "fflush" => flush; return .number 0
    | "systime" => return .number (Float.ofInt (Moment.ofClock (← get).world.clock).seconds)
    | "strftime" =>
      let pattern ← if args.isEmpty then pure "%c" else text 0
      let moment ← if args.length < 2 then pure (Moment.ofClock (← get).world.clock)
        else pure (Moment.ofSeconds (wholeOf (← number 1)))
      return .text (moment.tell false pattern)
    | "mktime" =>
      let parts := (Text.split ' ' (← text 0)).filterMap Tool.decimal?
      return .number (match parts with
        | year :: month :: day :: hour :: minute :: second :: _ =>
          Float.ofInt ((Moment.ofParts ⟨year, month, day⟩ hour minute second).seconds)
        | _ => -1)
    | _ => return .number 0

/-- Matches in a place are replaced; the number of replacements is the value. -/
def substitute : Nat → Bool → List Expr → Exec Value
  | 0, _, _ => return .missing
  | n + 1, isAll, args => do
    let r ← regexOf n (args.getD 0 (.text ""))
    let new ← textOf (← eval n (args.getD 1 (.text "")))
    let place := args.getD 2 (.field (.number 0))
    let s ← textOf (← eval n place)
    let (text, count) := r.replace ⟨1, isAll⟩ (fun t f => replacement new (f.text t)) s
    if 0 < count then store n place (.text text)
    return .number (Float.ofNat count)

/-- A function of the program is called; tables are handed over as they are, values are copied. -/
def invoke : Nat → String → List Expr → Exec Value
  | 0, _, _ => throw (.fault "function call nesting too deep")
  | n + 1, name, args => do
    match (← get).program.functions.lookup name with
    | none => throw (.fault ("function " ++ name ++ " never defined"))
    | some f =>
      let mut bound : List (String × Nat) := []
      for (parameter, i) in f.parameters.zipIdx do
        let shared ← match args[i]? with
          | some (.var v) => do
            let r ← get
            let isValue := match (r.cell v).bind (r.cells[·]?) with
              | some (.value _) => true
              | _ => false
            if isValue || v = "NF" then pure none else some <$> cellOf v
          | _ => pure none
        match shared with
        | some cell => bound := (parameter, cell) :: bound
        | none =>
          let v ← match args[i]? with
            | some e => Cell.value <$> eval n e
            | none => pure Cell.unused
          let r ← get
          set { r with nextCell := r.nextCell + 1, cells := r.cells.insert r.nextCell v }
          bound := (parameter, r.nextCell) :: bound
      let outer := (← get).locals
      modify ({ · with locals := bound })
      let v ← try
          perform n f.body
          pure Value.missing
        catch
          | .returning v => pure v
          | signal => throw signal
      modify ({ · with locals := outer })
      return v

/-- A record is read by an expression: 1 if there was one, 0 at the end, -1 if the file cannot be
read. -/
def readLine : Nat → Option Expr → Option Expr → Exec Value
  | 0, _, _ => return .number 0
  | n + 1, place, file => do
    let give (line : String) : Exec Value := do
      match place with
      | some place => store n place (.ofInput line)
      | none => setRecord line
      return .number 1
    match file with
    | none =>
      match ← nextRecord 100 with
      | some line => give line
      | none => return .number 0
    | some e =>
      let path ← textOf (← eval n e)
      let r ← get
      let separator ← textOf (r.global "RS")
      let lines? : Option (List String) ← match r.readers.lookup path with
        | some lines => pure (some lines)
        | none =>
          if Tool.isInput path then some <$> (cutRecords separator <$> takeInput)
          else pure ((r.surroundings.read path).toOption.map fun s => cutRecords separator s.text)
      match lines? with
      | none => return .number (-1)
      | some lines =>
        modify fun r => { r with readers := (path, lines.tail) :: r.readers.filter (·.1 != path) }
        match lines with
        | [] => return .number 0
        | line :: _ => give line

/-- A line of what a command writes is read. -/
def listen : Nat → Expr → Option Expr → Exec Value
  | 0, _, _ => return .number 0
  | n + 1, e, place => do
    let name ← textOf (← eval n e)
    let separator ← textOf ((← get).global "RS")
    let (lines, status) ← match (← get).listeners.lookup name with
      | some found => pure found
      | none => do
        let (text, status) ← listenTo name
        pure (cutRecords separator text, status)
    modify fun r => { r with
      listeners := (name, lines.tail, status) :: r.listeners.filter (·.1 != name) }
    match lines with
    | [] => return .number 0
    | line :: _ =>
      match place with
      | some place => store n place (.ofInput line)
      | none => setRecord line
      return .number 1

/-- A statement is performed. -/
def perform : Nat → Statement → Exec Unit
  | 0, _ => throw (.fault "function call nesting too deep")
  | n + 1, s => do
    let output (target : Target) (text : String) : Exec Unit := do
      match target with
      | .standard => modify fun r => { r with out := r.out ++ text }
      | .file path => writeTo (← textOf (← eval n path)) false text
      | .appended path => writeTo (← textOf (← eval n path)) true text
      | .command name => writeToCommand (← textOf (← eval n name)) text
    /- A body of a loop: whether the loop goes on. -/
    let round (body : Statement) : Exec Bool := do
      try
        perform n body
        return true
      catch
        | .leavingLoop => return false
        | .nextRound => return true
        | signal => throw signal
    match s with
    | .nothing => return ()
    | .expr e => let _ ← eval n e
    | .block body => for s in body do perform n s
    | .print args target =>
      let r ← get
      let separator ← textOf (r.global "ORS")
      if args.isEmpty then output target (r.record ++ separator)
      else
        let format := (r.global "OFMT").toText "%.6g"
        let mut texts : List String := []
        for e in args do
          texts := ((← eval n e).toText format) :: texts
        let joint ← textOf ((← get).global "OFS")
        output target (joint.intercalate texts.reverse ++ separator)
    | .format args target =>
      match args with
      | [] => throw (.fault "no format")
      | f :: rest =>
        let f ← textOf (← eval n f)
        let mut values : List Value := []
        for e in rest do
          values := (← eval n e) :: values
        output target (format (← get).conversion (f.length + 1) f.toList values.reverse)
    | .choice condition yes no =>
      if (← eval n condition).isTrue then perform n yes
      else perform n no
    | .loop condition body => loop loopLimit (eval n condition) (round body) (return ())
    | .loopAfter body condition =>
      if ← round body then loop loopLimit (eval n condition) (round body) (return ())
    | .counting start condition step body =>
      perform n start
      loop loopLimit (condition.elim (return .number 1) (eval n)) (round body) (perform n step)
    | .each name array body =>
      let (_, t) ← tableOf array
      let keys := (t.toList.map (·.1)).mergeSort fun a b => decide (a ≤ b)
      let cell ← cellOf name
      let mut goesOn := true
      for key in keys do
        if goesOn && (← tableOf array).2.contains key then
          setCell cell (.value (.ofInput key))
          goesOn ← round body
    | .next => throw .nextRecord
    | .nextFile =>
      modify fun r => { r with records := [] }
      throw .nextRecord
    | .exit e =>
      match e with
      | none => throw (.leaving none)
      | some e => throw (.leaving (some ((wholeOf (← eval n e).toNumber) % 256).toNat))
    | .answer e =>
      match e with
      | none => throw (.returning .missing)
      | some e => throw (.returning (← eval n e))
    | .leaveLoop => throw .leavingLoop
    | .nextRound => throw .nextRound
    | .delete name index =>
      let (i, t) ← tableOf name
      if index.isEmpty then setCell i (.table ∅)
      else
        let key ← indexKey n index
        setCell i (.table (t.erase key))
where
  /-- How often a loop runs at most. -/
  loopLimit : Nat := 10000000
  /-- A body is run as long as a condition holds. -/
  loop : Nat → Exec Value → Exec Bool → Exec Unit → Exec Unit
    | 0, _, _, _ => return ()
    | n + 1, condition, body, step => do
      if (← condition).isTrue then
        if ← body then
          step
          loop n condition body step

end

/-- How deep programs go. -/
def depth : Nat := 2000

/-- Whether a rule is performed for the record at hand. -/
def isChosen (index : Nat) (p : Pattern) : Exec Bool := do
  match p with
  | .always => return true
  | .chosenBy e => return (← eval depth e).isTrue
  | .between first last =>
    let hasBegun := (← get).begun.contains index
    if !hasBegun && !(← eval depth first).isTrue then return false
    let ends := (← eval depth last).isTrue
    modify fun r => { r with begun := if ends then r.begun.filter (· != index) else
      if hasBegun then r.begun else index :: r.begun }
    return true
  | _ => return false

/-- The rules are performed for a record. -/
def performRules : List (Rule × Nat) → Exec Unit
  | [] => return ()
  | (rule, i) :: rest => do
    if ← isChosen i rule.pattern then
      match rule.action with
      | some s => perform depth s
      | none => perform depth (.print [] .standard)
    performRules rest

/-- Records are read until none is left. -/
def performAll (rules : List (Rule × Nat)) : Nat → Exec Unit
  | 0 => return ()
  | n + 1 => do
    match ← nextRecord 100 with
    | none => return ()
    | some line =>
      setRecord line
      try performRules rules
      catch
        | .nextRecord => pure ()
        | signal => throw signal
      performAll rules n

/-- The actions of a kind. -/
def actionsOf (p : Program) (isKind : Pattern → Bool) : List Statement :=
  p.rules.filterMap fun r => if isKind r.pattern then r.action else none

/-- How many records are read at most. -/
def recordLimit : Nat := 1000000000

/-- The whole program. -/
def runProgram (p : Program) : Exec Unit := do
  let isStart : Pattern → Bool
    | .atStart => true
    | _ => false
  let isEnd : Pattern → Bool
    | .atEnd => true
    | _ => false
  let rules := p.rules.zipIdx.filter fun (r, _) => !isStart r.pattern && !isEnd r.pattern
  let left ← try
      for s in actionsOf p isStart do perform depth s
      if !rules.isEmpty || !(actionsOf p isEnd).isEmpty then performAll rules recordLimit
      pure none
    catch
      | .leaving status => pure (some status)
      | signal => throw signal
  match left with
  | some status => modify fun r => { r with status := status.getD 0 }
  | none => pure ()
  try
    for s in actionsOf p isEnd do perform depth s
  catch
    | .leaving status => modify fun r => { r with status := status.getD r.status }
    | signal => throw signal

/-- What a variable is set to by an option. -/
def settingsOf (o : Tool.Options) : List (String × Value) :=
  o.given.filterMap fun (c, v) =>
    if c = 'v' then (setting? v).map fun (k, v) => (k, Value.ofInput v) else none

/-- A program that was read is run over the files that arguments name. -/
def runOver (start : Starter) (s : Setting) (name : String) (o : Tool.Options) (p : Program)
    (arguments : List String) : Action := fun w =>
  let separator := match o.value? 'F' with
    | none => " "
    | some "t" => "\t"
    | some f => escapes.replaced f
  let values : List (String × Value) :=
    [("FS", .text separator), ("OFS", .text " "), ("ORS", .text "\n"), ("RS", .text "\n"),
      ("SUBSEP", .text "\x1c"), ("CONVFMT", .text "%.6g"), ("OFMT", .text "%.6g"),
      ("NR", .number 0), ("FNR", .number 0), ("RSTART", .number 0), ("RLENGTH", .number (-1)),
      ("ARGC", .number (Float.ofNat (arguments.length + 1)))] ++ settingsOf o
  let tables : List (String × List (String × String)) :=
    [("ENVIRON", s.environment),
      ("ARGV", (name :: arguments).zipIdx.map fun (a, i) => (toString i, a))]
  let cells := (values.map fun (k, v) => (k, Cell.value v)) ++
    tables.map fun (k, all) =>
      (k, Cell.table (all.foldl (fun t (k, v) => t.insert k (Value.ofInput v)) ∅))
  let first : Run :=
    { program := p, start := start, setting := s, world := w,
      cells := cells.zipIdx.foldl (fun m ((_, c), i) => m.insert i c) ∅,
      globals := (cells.zipIdx.map fun ((k, _), i) => (k, i)).reverse, locals := [],
      nextCell := cells.length, record := "", fields := #[], records := [], arguments := arguments,
      hasRead := false, readers := [], listeners := [], out := "", files := [], commands := [],
      status := 0, seed := 1, begun := [] }
  let (result, last) := ((runProgram p).run).run first
  let (closed, last) := (closeAll.run).run last
  let faulted (words : String) : Ending × World :=
    (.exited 2, s.write 2 (name ++ ": " ++ words ++ "\n") last.world)
  match result, closed with
  | .error (.fault words), _ => faulted words
  | _, .error (.fault words) => faulted words
  | _, _ => (.exited (UInt8.ofNat last.status), last.world)

/-- The program that runs programs over records. -/
def run (start : Starter) (s : Setting) (name : String) (args : List String) : Action := fun w =>
  let refuse (words : String) : Ending × World := (.exited 2, s.write 2 (words ++ "\n") w)
  let g := Tool.Grammar.ofText "F:v:f:W:" [("field-separator", 'F'), ("assign", 'v'), ("file", 'f')]
    false
  let surroundings : Surroundings := ⟨w.files, s.cwd, s.environment, w.clock, s.mask⟩
  match g.read args with
  | .error words => refuse (name ++ ": " ++ words)
  | .ok o =>
    let paths := o.given.filterMap fun (c, v) => if c = 'f' then some v else none
    let text? : Except String (String × List String) :=
      match paths, o.operands with
      | [], [] => .error ("Usage: " ++ name ++ " [Options] [program] [file ...]")
      | [], text :: arguments => .ok (text, arguments)
      | paths, arguments =>
        let texts : Except String (List String) := paths.mapM fun path =>
          match surroundings.read path with
          | .ok supply => .ok supply.text
          | .error _ => .error (name ++ ": couldn't open file " ++ path)
        texts.map fun texts => ("\n".intercalate texts, arguments)
    match text? with
    | .error words => refuse words
    | .ok (text, arguments) =>
      match Program.ofText text with
      | .error words => refuse (name ++ ": line 1: " ++ words)
      | .ok p => runOver start s name o p arguments w

end CiHarness.Awk
