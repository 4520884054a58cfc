import CiHarness.Host.Shell.Reading
import CiHarness.Host.World

/-!
# Running shells

What a shell knows while it runs a script: its variables and functions, its parameters, where it
stands and what its descriptors lead to, its options, the status of the last command, and whether it
goes on at all. The world it runs in is a part of its state.
-/
namespace CiHarness.Shell

/-- The value of a variable: a text, elements with numbers in ascending order, or elements with
names. -/
inductive Value where
  | text (s : String)
  | list (elements : List (Int × String))
  | table (elements : List (String × String))

/-- A variable; one without a value may still be marked. -/
structure Binding where
  value : Option Value
  isExported : Bool
  isFixed : Bool
  /-- Whether the value is the name of another variable that is meant. -/
  isReference : Bool
  /-- Whether what is assigned is an arithmetic expression. -/
  isNumber : Bool

namespace Binding

def empty : Binding := ⟨none, false, false, false, false⟩

/-- The value as one text; of a list the element with the number zero. -/
def text? (b : Binding) : Option String :=
  match b.value with
  | some (.text s) => some s
  | some (.list elements) => elements.lookup 0
  | some (.table elements) => elements.lookup "0"
  | none => none

end Binding

/-- How a shell goes on. -/
inductive Flow where
  | running
  | leaving (status : UInt8)
  | killed (signal : Nat)
  | breaking (loops : Nat)
  | continuing (loops : Nat)
  | returning
  /-- What is left of the present line is not run any more. -/
  | discarding
  deriving DecidableEq

/-- A process in the background: its number, the time when it ends, and its status. -/
structure Job where
  number : Nat
  finish : Nat
  status : UInt8

/-- The options of a shell. -/
structure Options where
  /-- A command that fails ends the shell. -/
  stopsOnFailure : Bool
  /-- A variable that is not set is a fault. -/
  stopsOnUnset : Bool
  tracesCommands : Bool
  keepsPatterns : Bool
  runsNothing : Bool
  exportsAll : Bool
  protectsFiles : Bool
  /-- A pipeline fails if any of its commands fails. -/
  watchesPipes : Bool
  /-- Further options that are on, by their names. -/
  further : List String

def Options.initial : Options := ⟨false, false, false, false, false, false, false, false, []⟩

/-- A running shell. -/
structure State where
  world : World
  cwd : Place
  /-- The way that was taken to the working directory, links included. -/
  way : String
  descriptors : Descriptors
  name : String
  parameters : List String
  bindings : List (String × Binding)
  /-- For each running function the bindings that it has covered. -/
  scopes : List (List (String × Option Binding))
  functions : List (String × Script)
  /-- Texts that stand for the first words of commands. -/
  aliases : List (String × String)
  options : Options
  status : UInt8
  /-- The statuses of the last pipeline. -/
  statuses : List UInt8
  flow : Flow
  /-- What is run at the end, or when a signal comes. -/
  traps : List (String × String)
  jobs : List Job
  lastJob : Option Nat
  /-- The number of the outermost shell, and of the one that runs now. -/
  mainNumber : Nat
  ownNumber : Nat
  /-- The number of the process that started the outermost shell. -/
  parentNumber : Nat
  /-- The status of the last script inside of a word of the present command, if there was one. -/
  outputStatus : Option UInt8
  /-- How many letters of the argument at hand have been looked at as options. -/
  optionPlace : Nat
  /-- The permissions that new files lack. -/
  mask : Nat
  /-- The functions that are running, the innermost one first, and how many shells stand around this
  one. -/
  callers : List String
  depth : Nat
  /-- Whether the script was given as an argument. -/
  isArgument : Bool
  /-- Files that are read by scripts as soon as the present command has ended. -/
  channels : List (Place × Script)
  /-- Directories to come back to. -/
  directories : List (Place × String)
  /-- Whether a failure is looked at by somebody, so that it does not end the shell. -/
  isWatched : Bool
  extended : Bool
  line : Nat
  loops : Nat
  /-- Programs that were found in the search path: their names and places, and how often they were
  called. -/
  known : List (String × String × Nat)

/-- What a script sees of its host: how a program that lies at a path is started. -/
structure Outside where
  start : Setting → String → List String → World → Except SystemError (Ending × World)

/-- Something that a shell does. -/
abbrev Sh := StateM State

namespace State

/-- The status of an ending as a shell sees it. -/
def statusOf : Ending → UInt8
  | .exited code => code
  | .killed signal => UInt8.ofNat (128 + signal)

def isRunning (s : State) : Bool := s.flow == .running

/-- The text that stands before a complaint. -/
def origin (s : State) : String :=
  if s.extended then s.name ++ ": line " ++ toString s.line ++ ": "
  else s.name ++ ": " ++ toString s.line ++ ": "

/-- The place of a name in the table of variables: the plain shell adds up the bytes of a name, the
extended one multiplies and combines them. -/
def bucket (extended : Bool) (name : String) : Nat :=
  if extended then
    (name.foldl (fun (h : UInt32) c => (h * 16777619) ^^^ UInt32.ofNat c.toNat) 2166136261).toNat %
    1024
  else name.foldl (fun n c => n + c.toNat) (16 * (name.toList.headD '\x00').toNat) % 39

/-- The environment of the programs that are started, in the order of the table of variables. -/
def environment (s : State) : List (String × String) :=
  let exported := s.bindings.filterMap fun (name, b) =>
    if b.isExported then b.text?.map fun v => (bucket s.extended name, name, v) else none
  (exported.reverse.mergeSort fun a b => decide (a.1 ≤ b.1)).map (·.2)

/-- Where the programs stand that are started. -/
def setting (s : State) : Setting := ⟨s.cwd, s.environment, s.descriptors, s.ownNumber, s.mask⟩

/-- The letters of the options that are on. -/
def letters (s : State) : String :=
  let o := s.options
  String.ofList ((if s.extended then ['h'] else []) ++
    [('a', o.exportsAll), ('e', o.stopsOnFailure), ('f', o.keepsPatterns), ('u', o.stopsOnUnset),
      ('x', o.tracesCommands), ('C', o.protectsFiles)].filterMap
        (fun (c, isOn) => if isOn then some c else none) ++
    (if s.extended then ['B', 'c'] else []))

/-- A variable that the shell itself keeps. -/
def special? (s : State) (name : String) : Option String :=
  if name = "?" then some (toString s.status.toNat)
  else if name = "$" then some (toString s.mainNumber)
  else if name = "#" then some (toString s.parameters.length)
  else if name = "!" then s.lastJob.map toString
  else if name = "-" then some s.letters
  else if name = "0" then some s.name
  else if name = "LINENO" then some (toString s.line)
  else if name = "PPID" then some (toString s.parentNumber)
  else if s.extended && name = "SECONDS" then some (toString ((s.world.clock - 1000000) / 1000000))
  else if s.extended && name = "BASHPID" then some (toString s.ownNumber)
  else if s.extended && name = "BASH_SUBSHELL" then some (toString s.depth)
  else if s.extended && name = "FUNCNAME" then s.callers.head?
  else if s.extended && name = "RANDOM" then some (toString (s.world.clock * 7919 % 32768))
  else if name.all (·.isDigit) && name != "" then
    (name.toNat?.bind fun n => s.parameters[n - 1]?)
  else none

/-- The texts that stand for first words; the extended shell uses them only if it is told to. -/
def activeAliases (s : State) : List (String × String) :=
  if s.extended && !s.options.further.contains "expand_aliases" then [] else s.aliases

/-- The variable that a name means in the end. -/
def target (s : State) (name : String) : String :=
  if s.extended then go 8 name else name
where
  go : Nat → String → String
    | 0, name => name
    | n + 1, name =>
      match s.bindings.lookup name with
      | some ⟨some (.text other), _, _, true, _⟩ => go n other
      | _ => name

/-- Whether a further option is on. -/
def isOn (s : State) (name : String) : Bool := s.options.further.contains name

/-- The value of a variable as one text; none if it is not set. -/
def value? (s : State) (name : String) : Option String :=
  match s.special? name with
  | some v => some v
  | none => (s.bindings.lookup (s.target name)).bind Binding.text?

/-- The characters at which values are split. -/
def separators (s : State) : String := (s.value? "IFS").getD " \t\n"

/-- What stands between parameters that are joined. -/
def joint (s : State) : String :=
  match s.value? "IFS" with
  | none => " "
  | some "" => ""
  | some t => String.ofList (t.toList.take 1)

def binding (s : State) (name : String) : Binding := (s.bindings.lookup (s.target name)).getD .empty

/-- A binding is put in the place of the one with its name. -/
def setBinding (s : State) (name : String) (b : Binding) : State :=
  let s := if name = "PATH" then { s with known := [] } else s
  if (s.bindings.lookup name).isSome then
    { s with bindings := s.bindings.map fun (n, old) => if n = name then (n, b) else (n, old) }
  else { s with bindings := (name, b) :: s.bindings }

/-- It is remembered where a program was found. -/
def remember (s : State) (name path : String) (calls : Nat) : State :=
  match s.known.lookup name with
  | some (_, n) =>
    { s with known := s.known.map fun (other, p, k) => if other = name then (name, path, n + calls)
      else (other, p, k) }
  | none => { s with known := s.known ++ [(name, path, calls)] }

/-- A binding is taken away. -/
def dropBinding (s : State) (name : String) : State :=
  { s with bindings := s.bindings.filter (·.1 != name) }

/-- The elements of a variable. -/
def elements (s : State) (name : String) : List (String × String) :=
  if s.extended && name = "PIPESTATUS" then
    s.statuses.zipIdx.map fun (status, i) => (toString i, toString status.toNat)
  else if s.extended && name = "FUNCNAME" then s.callers.zipIdx.map fun (n, i) => (toString i, n)
  else
    match (s.binding name).value with
    | some (.list elements) => elements.map fun (i, v) => (toString i, v)
    | some (.table elements) => elements
    | some (.text v) => [("0", v)]
    | none => []

end State

/-! ## Actions -/

/-- A text is written to a descriptor; false if that cannot be done. -/
def write (descriptor : Nat) (text : String) : Sh Bool := do
  let s ← get
  let (world, isWritten) := s.descriptors.write s.world descriptor text
  set { s with world := world }
  return isWritten

/-- A complaint is written. -/
def complain (words : String) : Sh Unit := do
  let _ ← write 2 ((← get).origin ++ words ++ "\n")

def setStatus (status : UInt8) : Sh Unit := modify ({ · with status := status })

/-- The shell ends. -/
def leave (status : UInt8) : Sh Unit :=
  modify fun s => { s with status := status, flow := .leaving status }

/-- The shell complains and the plain one ends; the extended one leaves out what is left of the
line. -/
def abort (words : String) : Sh Unit := do
  complain words
  if (← get).extended then modify ({ · with status := 1, flow := .discarding }) else leave 2

/-- The shell complains and ends. -/
def abandon (words : String) : Sh Unit := do
  complain words
  let s ← get
  leave (if !s.extended then 2
    else if s.isArgument && s.depth = 0 && !s.options.stopsOnFailure then 127 else 1)

/-- Words too many: the extended shell complains, and one whose script is an argument ends. -/
def refuseMore (name : String) : Sh Unit := do
  complain (name ++ ": too many arguments")
  if (← get).isArgument then leave 1 else modify ({ · with status := 1, flow := .discarding })

/-- A variable cannot be set: the plain shell ends, the extended one goes on. -/
def refuseFixed (name : String) : Sh Unit := do
  if (← get).extended then
    complain (name ++ ": readonly variable")
    setStatus 1
  else abort (name ++ ": is read only")

def isRunning : Sh Bool := return (← get).isRunning

/-- A variable is set to a text; false if it is fixed. -/
def assign (name value : String) : Sh Bool := do
  let s ← get
  let b := s.binding name
  if b.isFixed then
    refuseFixed name
    return false
  let value : Value := match b.value with
    | some (.list elements) => .list (insertElement 0 value elements)
    | some (.table elements) => .table (("0", value) :: elements.filter (·.1 != "0"))
    | _ => .text value
  set (s.setBinding (s.target name)
    { b with value := some value, isExported := b.isExported || s.options.exportsAll })
  return true
where
  insertElement (i : Int) (v : String) : List (Int × String) → List (Int × String)
    | [] => [(i, v)]
    | (j, w) :: rest =>
      if i < j then (i, v) :: (j, w) :: rest
      else if i = j then (i, v) :: rest
      else (j, w) :: insertElement i v rest

/-- A variable is set to a value of any kind; false if it is fixed. -/
def assignValue (name : String) (value : Value) : Sh Bool := do
  let s ← get
  let b := s.binding name
  if b.isFixed then
    refuseFixed name
    return false
  set (s.setBinding (s.target name)
    { b with value := some value, isExported := b.isExported || s.options.exportsAll })
  return true

/-- An element of a list or a table is set. -/
def assignElement (name : String) (key : Int ⊕ String) (value : String) : Sh Bool := do
  let s ← get
  match key, (s.binding name).value with
  | .inr key, some (.table elements) =>
    assignValue name (.table (if (elements.lookup key).isSome
      then elements.map (fun (k, v) => if k = key then (k, value) else (k, v))
      else elements ++ [(key, value)]))
  | .inr key, _ => assignValue name (.table [(key, value)])
  | .inl i, some (.list elements) =>
    assignValue name (.list (assign.insertElement (resolve i elements) value elements))
  | .inl i, some (.text old) =>
    assignValue name (.list (assign.insertElement i value [(0, old)]))
  | .inl i, _ => assignValue name (.list [(i, value)])
where
  resolve (i : Int) (elements : List (Int × String)) : Int :=
    if i < 0 then ((elements.getLast?.map (·.1)).getD (-1)) + 1 + i else i

end CiHarness.Shell
