import CiHarness.Host.Shell.Expansion
import CiHarness.Host.Tool.Condition
import CiHarness.Host.Tool.Writing

/-!
# Commands of the shell

Some commands are built into the shell, because they change what the shell knows: where it stands,
its variables and parameters, its options, traps and jobs, or what is run next. Others are only
built in to be near. In the plain shell a fault of a command that changes the shell ends it.
-/
namespace CiHarness.Shell

/-- How a script is run in a shell. -/
abbrev Performer := Script → Sh Unit

/-! ## Signals -/

/-- The names of signals, each with its number. -/
def signals : List (String × Nat) :=
  [("EXIT", 0), ("HUP", 1), ("INT", 2), ("QUIT", 3), ("ILL", 4), ("TRAP", 5), ("ABRT", 6),
    ("BUS", 7), ("FPE", 8), ("KILL", 9), ("USR1", 10), ("SEGV", 11), ("USR2", 12), ("PIPE", 13),
    ("ALRM", 14),
    ("TERM", 15), ("STKFLT", 16), ("CHLD", 17), ("CONT", 18), ("STOP", 19), ("TSTP", 20),
    ("TTIN", 21),
    ("TTOU", 22), ("URG", 23), ("XCPU", 24), ("XFSZ", 25), ("VTALRM", 26), ("PROF", 27),
    ("WINCH", 28),
    ("IO", 29), ("PWR", 30), ("SYS", 31)]

/-- The number of a signal that is given by number or name. -/
def signal? (s : String) : Option Nat :=
  match Tool.decimal? s with
  | some n => if n ≤ 64 then some n else none
  | none =>
    let name := s.map Char.toUpper
    signals.lookup (if name.startsWith "SIG" then (name.drop 3).toString else name)

/-- The name of a signal. -/
def signalName (n : Nat) : String :=
  ((signals.find? (·.2 = n)).map (·.1)).getD (toString n)

/-- Signals that do not stop a process that knows nothing about them. -/
def isHarmless (signal : Nat) : Bool := [0, 17, 18, 19, 20, 21, 22, 23, 28].contains signal

/-! ## Running texts -/

/-- The lines of a text are run as they are read; a mistake ends the shell, or the text in the
extended shell. The second argument of a line's run tells whether it is the last one. -/
def performLines (perform : Bool → Script → Sh Unit) (onMistake : Mistake → Sh Unit) :
    Nat → Source → Sh Unit
  | 0, _ => return ()
  | n + 1, source => do
    if !(← isRunning) then return ()
    match Reading.nextLine { source with aliases := (← get).activeAliases } with
    | .error m => onMistake m
    | .ok (none, _) => return ()
    | .ok (some script, source) =>
      perform source.rest.isEmpty script
      modify fun s => if s.flow = .discarding && s.depth = 0 then { s with flow := .running } else s
      performLines perform onMistake n source

/-- A mistake in a text that is run by a command. -/
def mistakeIn (name : String) (m : Mistake) : Sh Unit := do
  modify ({ · with line := m.line })
  complain ((if name = "" then "" else name ++ ": ") ++ m.words)
  if (← get).extended then setStatus 2 else leave 2

/-- A text is run in this shell. -/
def performText (perform : Performer) (name text : String) : Sh Unit := do
  let s ← get
  performLines (fun _ script => perform script) (mistakeIn name) (text.length + 1)
    (Source.ofText text s.line s.extended)

/-! ## Ending -/

/-- How the shell has ended. -/
def State.ending (s : State) : Ending :=
  match s.flow with
  | .leaving status => .exited status
  | .killed signal => .killed signal
  | _ => .exited s.status

/-- The shell comes to its end: what was asked for at the end is run, and does not change the status
unless it leaves by itself. -/
def finish (perform : Performer) : Sh Unit := do
  let s ← get
  match s.flow, s.traps.lookup "EXIT" with
  | .killed _, _ => return ()
  | _, none => return ()
  | flow, some text =>
    let status := match flow with
      | .leaving status => status
      | _ => s.status
    set { s with
      flow := .running, status := status, traps := s.traps.filter (·.1 != "EXIT"),
      isWatched := false,
      scopes := [], loops := 0 }
    performText perform "" text
    match (← get).flow with
    | .leaving _ => return ()
    | .killed _ => return ()
    | _ => leave status

/-- A shell inside of this one: what it is told is known there, but nothing of what it does is known
here, apart from the world. It ends as it ends. -/
def apart (perform : Performer) (body : Sh Unit) : Sh Ending := do
  let s ← get
  let (number, world) := s.world.newNumber
  let inner : State := { s with
    world := world, ownNumber := number, jobs := [], depth := s.depth + 1,
    traps := s.traps.filter fun (_, text) => text = "" }
  let (_, inner) := (do body; finish perform : Sh Unit).run inner
  set { s with world := inner.world }
  return inner.ending

/-- The scripts that read what was written to their files are run. -/
def performChannels (perform : Performer) : Sh Unit := do
  let s ← get
  if s.channels.isEmpty then return ()
  set { s with channels := [] }
  for (here, body) in s.channels.reverse do
    let before ← get
    let _ ← apart perform do
      modify fun s =>
        let (stream, world) := s.world.openStream (.source (.ofBytes (s.world.fileBytes here)))
        { s with world := world, descriptors := s.descriptors.connect 0 stream }
      perform body
    setStatus before.status

/-- A signal reaches this shell. -/
def receive (perform : Performer) (signal : Nat) : Sh Unit := do
  let s ← get
  match (if signal = 9 then none else s.traps.lookup (signalName signal)) with
  | some "" => return ()
  | some text =>
    let status := s.status
    performText perform "" text
    if ← isRunning then setStatus status
  | none =>
    if isHarmless signal then return ()
    if s.extended && signal != 9 then
      finish perform
    modify ({ · with flow := .killed signal })

/-- Signals that other processes have sent to this one are received. -/
def receiveAll (perform : Performer) : Sh Unit := do
  let s ← get
  if s.world.signals.isEmpty then return ()
  let isMine (p : Nat × Nat) : Bool := p.2 = s.ownNumber
  set { s with world := { s.world with signals := s.world.signals.filter (!isMine ·) } }
  for (signal, _) in (s.world.signals.filter isMine).reverse do
    if ← isRunning then receive perform signal

/-! ## Faults -/

/-- The status of a command that was used in a wrong way. -/
def faultStatus : Sh UInt8 := return if (← get).extended then 1 else 2

/-- A fault of a command: a complaint and a status. -/
def fault (name words : String) : Sh Unit := do
  complain (name ++ ": " ++ words)
  setStatus (← faultStatus)

/-- A fault that ends the plain shell. -/
def seriousFault (name words : String) : Sh Unit := do
  complain (name ++ ": " ++ words)
  if (← get).extended then setStatus 1 else leave 2

/-- A text is written to the standard output by a command; a fault if it cannot be. -/
def tell (name text : String) : Sh Unit := do
  if !(← write 1 text) then
    if (← get).extended then fault name "write error: Bad file descriptor"
    else
      complain (name ++ ": " ++ name ++ ": I/O error")
      setStatus 1

/-- What is written, and with which status. -/
def tellWith (name text : String) (status : UInt8) : Sh Unit := do
  setStatus status
  tell name text

/-! ## Directories -/

/-- The way along the names of a path. -/
def goAlong (way path : String) : String :=
  let start : List String := if path.startsWith "/" then []
    else (Text.split '/' way).filter (· != "")
  let names := (Text.split '/' path).foldl (fun way name =>
    if name = "" ∨ name = "." then way
    else if name = ".." then way.dropLast else way ++ [name]) start
  "/" ++ "/".intercalate names

/-- A variable of the shell is set and exported. -/
def publish (name value : String) : Sh Unit := modify fun s =>
  s.setBinding name { s.binding name with value := some (.text value), isExported := true }

/-- The working directory is changed. -/
def changeDirectory (args : List String) : Sh Unit := do
  let s ← get
  let physical := args.contains "-P" && !args.contains "-L"
  let operands := args.filter fun a => !(["-P", "-L", "-e", "--"].contains a)
  if s.extended && 1 < operands.length then
    fault "cd" "too many arguments"
    return
  let (path, isTold) : Option String × Bool :=
    match operands with
    | [] => (s.value? "HOME", false)
    | "-" :: _ => (s.value? "OLDPWD", true)
    | path :: _ => (some path, false)
  match path with
  | none =>
    if s.extended then fault "cd" (if isTold then "OLDPWD not set" else "HOME not set")
    else setStatus 0
  | some path =>
    -- a path that begins with no dot is looked for in further directories
    let starts := if path.startsWith "/" || path.startsWith "." then []
      else ((s.value? "CDPATH").map (Text.split ':')).getD []
    let candidates := (starts.filter (· != "")).map (fun d => (d ++ "/" ++ path, true)) ++
      [(path, isTold)]
    let way? : Option (String × Place × Bool) := candidates.findSome? fun (path, isTold) =>
      let way := if physical then (if path.startsWith "/" then path else s.way ++ "/" ++ path)
        else goAlong s.way path
      let look : String := if physical then path else way
      if path = "" && s.extended then some (s.way, s.cwd, false)
      else
        match s.world.files.findEntry s.cwd ⟨Octets.toText look⟩ with
        | .ok (here, entry) =>
          if entry.isDirectory then
            some (if physical then Octets.ofText here.toPath.text else way, here, isTold)
          else none
        | .error _ => none
    match way? with
    | none =>
      if s.extended then
        let words := match s.world.files.findEntry s.cwd ⟨Octets.toText path⟩ with
          | .ok _ => "Not a directory"
          | .error e => e.words
        fault "cd" (path ++ ": " ++ words)
      else fault "cd" ("can't cd to " ++ path)
    | some (way, here, isTold) =>
      publish "OLDPWD" s.way
      publish "PWD" way
      modify ({ · with cwd := here, way := way, status := 0 })
      if isTold then tell "cd" (way ++ "\n")

def tellDirectory (args : List String) : Sh Unit := do
  let s ← get
  match args.find? fun a => a.startsWith "-" && a != "-P" && a != "-L" && a != "--" with
  | some a =>
    if s.extended then
      complain ("pwd: " ++ a ++ ": invalid option")
      setStatus 2
    else fault "pwd" ("Illegal option " ++ a)
  | none =>
    let path := if args.contains "-P" then Octets.ofText s.cwd.toPath.text else s.way
    tellWith "pwd" (path ++ "\n") 0

/-- The directories to come back to are shown, the present one first. -/
def tellDirectories (name : String) : Sh Unit := do
  let s ← get
  let shown (way : String) : String :=
    match s.value? "HOME" with
    | some home =>
      if way = home then "~"
      else if home != "" && way.startsWith (home ++ "/") then "~" ++ (way.drop home.length).toString
        else way
    | none => way
  tellWith name (" ".intercalate ((s.way :: s.directories.map (·.2)).map shown) ++ "\n") 0

/-- The working directory is changed, and the present one is kept to come back to. -/
def pushDirectory (args : List String) : Sh Unit := do
  let s ← get
  match args, s.directories with
  | [], [] => fault "pushd" "no other directory"
  | [], (_, way) :: rest =>
    changeDirectory [way]
    if (← get).status == 0 then
      modify ({ · with directories := (s.cwd, s.way) :: rest })
      tellDirectories "pushd"
  | path :: _, _ =>
    changeDirectory [path]
    if (← get).status == 0 then
      modify ({ · with directories := (s.cwd, s.way) :: s.directories })
      tellDirectories "pushd"

/-- The directory that was kept last is entered again. -/
def popDirectory (_ : List String) : Sh Unit := do
  let s ← get
  match s.directories with
  | [] => fault "popd" "directory stack empty"
  | (_, way) :: rest =>
    changeDirectory [way]
    if (← get).status == 0 then
      modify ({ · with directories := rest })
      tellDirectories "popd"

/-! ## Leaving -/

/-- A number that is no less than zero. -/
def natural? (s : String) : Option Nat :=
  (Tool.integer? s).bind fun n => if n < 0 then none else some n.toNat

/-- The status that an argument gives: the number modulo 256. -/
def statusOf? (extended : Bool) (arg : String) : Option UInt8 :=
  let isBlank (c : Char) : Bool := c = ' ' || ('\t' ≤ c && c ≤ '\r')
  let bare := String.ofList (((arg.toList.dropWhile isBlank).reverse.dropWhile isBlank).reverse)
  if extended then (Tool.integer? bare).map fun n => UInt8.ofNat (n % 256).toNat
  else (natural? bare).bind fun n => if n < Nat.pow 2 31 then some (UInt8.ofNat n) else none

def exitShell (args : List String) : Sh Unit := do
  let s ← get
  match args with
  | [] => leave s.status
  | arg :: rest =>
    match statusOf? s.extended arg with
    | some status =>
      if s.extended && !rest.isEmpty then refuseMore "exit" else leave status
    | none =>
      complain (if s.extended then "exit: " ++ arg ++ ": numeric argument required"
        else "exit: Illegal number: " ++ arg)
      leave 2

def returnFrom (args : List String) : Sh Unit := do
  let s ← get
  if s.extended && 1 < args.length then
    refuseMore "return"
    return
  let status? := match args with
    | [] => some s.status
    | arg :: _ => statusOf? s.extended arg
  match status? with
  | none =>
    complain (if s.extended then "return: " ++ args.headD "" ++ ": numeric argument required"
      else "return: Illegal number: " ++ args.headD "")
    if s.extended then modify ({ · with status := 2, flow := .returning }) else leave 2
  | some status =>
    if s.scopes.isEmpty then
      if s.extended then
        complain "return: can only \x60return' from a function or sourced script"
        setStatus 2
      else leave status
    else modify ({ · with status := status, flow := .returning })

/-- Loops are left, or their next round begins. -/
def leaveLoops (isBreak : Bool) (args : List String) : Sh Unit := do
  let s ← get
  let name := if isBreak then "break" else "continue"
  match args with
  | [] => go s 1
  | arg :: _ =>
    match natural? arg with
    | some (n + 1) => go s (n + 1)
    | _ =>
      if s.extended && s.loops = 0 then go s 0
      else if s.extended && (Tool.integer? arg).isNone then
        complain (name ++ ": " ++ arg ++ ": numeric argument required")
        leave 128
      else if s.extended then
        complain (name ++ ": " ++ arg ++ ": loop count out of range")
        modify ({ · with status := 1, flow := .breaking s.loops })
      else seriousFault name ("Illegal number: " ++ arg)
where
  go (s : State) (n : Nat) : Sh Unit := do
    if s.loops = 0 then
      if s.extended then
        complain ((if isBreak then "break" else "continue") ++
          ": only meaningful in a \x60for', \x60while', or \x60until' loop")
      setStatus 0
    else
      let n := min n s.loops
      modify ({ · with status := 0, flow := if isBreak then .breaking n else .continuing n })

def shiftParameters (args : List String) : Sh Unit := do
  let s ← get
  if s.extended && 1 < args.length then
    refuseMore "shift"
    return
  let n? := match args with
    | [] => some 1
    | arg :: _ => natural? arg
  match n? with
  | none => seriousFault "shift" ((if s.extended then args.headD "" ++ ": numeric argument required"
      else "Illegal number: " ++ args.headD ""))
  | some n =>
    if s.parameters.length < n then
      if s.extended then setStatus 1 else seriousFault "shift" "can't shift that many"
    else modify fun s => { s with parameters := s.parameters.drop n, status := 0 }

/-! ## Options -/

/-- An option by its letter, if it is one that is known. -/
def Options.with? (extended : Bool) (o : Options) (isOn : Bool) (c : Char) : Option Options :=
  match c with
  | 'e' => some { o with stopsOnFailure := isOn }
  | 'u' => some { o with stopsOnUnset := isOn }
  | 'x' => some { o with tracesCommands := isOn }
  | 'f' => some { o with keepsPatterns := isOn }
  | 'n' => some { o with runsNothing := isOn }
  | 'a' => some { o with exportsAll := isOn }
  | 'C' => some { o with protectsFiles := isOn }
  | 'P' => some { o with watchesPipes := isOn }
  | _ =>
    if (if extended then "bmvhiEBHTkptVIq" else "bmviIVEspq").toList.contains c then some o
    else none

/-- The letter of an option with a long name. -/
def optionLetter? (extended : Bool) (name : String) : Option Char :=
  let common := [("errexit", 'e'), ("nounset", 'u'), ("xtrace", 'x'), ("noglob", 'f'),
    ("noexec", 'n'),
    ("allexport", 'a'), ("noclobber", 'C'), ("monitor", 'm'), ("verbose", 'v'), ("notify", 'b'),
    ("vi", 'V'), ("emacs", 'E'), ("ignoreeof", 'I'), ("nolog", 'q'), ("privileged", 'p')]
  let more := [("pipefail", 'P'), ("braceexpand", 'B'), ("histexpand", 'H'), ("hashall", 'h'),
    ("errtrace", 'E'), ("functrace", 'T'), ("posix", 'q'), ("physical", 'q'), ("keyword", 'k'),
    ("onecmd", 't'), ("history", 'q'), ("interactive-comments", 'q')]
  (if extended then common ++ more else common).lookup name

/-- The options with long names in the order in which they are written, and whether they are on. -/
def optionStates (s : State) : List (String × Bool) :=
  let names := if s.extended then
      ["allexport", "braceexpand", "emacs", "errexit", "errtrace", "functrace", "hashall",
        "histexpand",
        "history", "ignoreeof", "interactive-comments", "keyword", "monitor", "noclobber", "noexec",
        "noglob",
        "nolog", "notify", "nounset", "onecmd", "physical", "pipefail", "posix", "privileged",
        "verbose", "vi",
        "xtrace"]
    else
      ["errexit", "noglob", "ignoreeof", "interactive", "monitor", "noexec", "stdin", "xtrace",
        "verbose", "vi",
        "emacs", "noclobber", "allexport", "notify", "nounset", "privileged", "nolog", "debug"]
  let o := s.options
  let on : List (String × Bool) := [("errexit", o.stopsOnFailure), ("noglob", o.keepsPatterns),
    ("noexec", o.runsNothing), ("xtrace", o.tracesCommands), ("noclobber", o.protectsFiles),
    ("allexport", o.exportsAll), ("nounset", o.stopsOnUnset), ("pipefail", o.watchesPipes),
    ("braceexpand", true), ("hashall", true), ("interactive-comments", true)]
  names.map fun name => (name, (on.lookup name).getD false)

/-- What is written about the options. -/
def optionTable (s : State) : String :=
  (if s.extended then "" else "Current option settings\n") ++ Octets.unlines ((optionStates s).map
    fun (name, isOn) => (if s.extended then Tool.padRight 15 name ++ "\t"
      else Tool.padRight 16 name) ++
      if isOn then "on" else "off")

/-- Commands that set the options as they are. -/
def optionCommands (s : State) : String :=
  Octets.unlines ((optionStates s).map fun (name, isOn) =>
    "set " ++ (if isOn then "-o " else "+o ") ++ name)

/-- A text between double quotes, in which it stands for itself. -/
def doublyQuoted (v : String) : String :=
  "\"" ++ String.join (v.toList.map fun c =>
    if c = '\\' ∨ c = '"' ∨ c = '$' ∨ c = '\x60' then "\\" ++ c.toString else c.toString) ++ "\""

/-- The elements of a list or a table between parentheses. -/
def elementsText : Value → Option String
  | .list elements =>
    some ("(" ++ " ".intercalate
      (elements.map fun (i, v) => "[" ++ toString i ++ "]=" ++ doublyQuoted v) ++ ")")
  | .table elements =>
    some ("(" ++ " ".intercalate (elements.map fun (k, v) => "[" ++ k ++ "]=" ++ doublyQuoted v) ++
      " )")
  | .text _ => none

/-- A value as a script would give it; the extended shell quotes it only if it has to. -/
def quotedValue (extended : Bool) (v : String) : String :=
  let isPlain (c : Char) : Bool := !(" \t\n'\"\\|&;()<>!\x7b\x7d*[?]^$\x60".toList.contains c)
  if !extended then "'" ++ v.replace "'" "'\"'\"'" ++ "'"
  else if v.all isPlain && !v.startsWith "~" && !v.startsWith "#" then v
  else "'" ++ v.replace "'" "'\\''" ++ "'"

/-- All variables with their values. -/
def variableTable (s : State) : String :=
  let all := s.bindings.filterMap fun (name, b) =>
    b.value.bind fun v => match v, elementsText v with
      | .text t, _ => some (name, quotedValue s.extended t)
      | _, some t => some (name, t)
      | _, none => none
  let sorted := all.mergeSort fun a b => decide (a.1 ≤ b.1)
  Octets.unlines (sorted.map fun (name, v) => name ++ "=" ++ v)

/-- The parameters and options are set; the first argument bounds the number of arguments. -/
def setOptions : Nat → List String → Sh Unit
  | 0, _ => return ()
  | n + 1, args => do
    let s ← get
    match args with
    | [] => setStatus 0
    | "--" :: rest => modify ({ · with parameters := rest, status := 0 })
    | "-" :: rest =>
      modify fun s => { s with
        options := { s.options with tracesCommands := false },
        parameters := if rest.isEmpty then s.parameters else rest, status := 0 }
    | arg :: rest =>
      if !(arg.startsWith "-" || arg.startsWith "+") then
        modify ({ · with parameters := arg :: rest, status := 0 })
      else
        let isOn := arg.startsWith "-"
        let letters := arg.toList.tail
        let named := letters.contains 'o'
        let options? := (letters.filter (· != 'o')).foldl
          (fun o c => o.bind fun o => o.with? s.extended isOn c) (some s.options)
        match options? with
        | none =>
          if s.extended then
            complain ("set: " ++ arg ++ ": invalid option")
            setStatus 2
          else seriousFault "set" ("Illegal option " ++ arg)
        | some options =>
          set { s with options := options, status := 0 }
          if named then
            match rest with
            | [] => tell "set" (if isOn then optionTable s else optionCommands s)
            | name :: rest =>
              match (optionLetter? s.extended name).bind (options.with? s.extended isOn ·) with
              | some options =>
                modify ({ · with options := options })
                setOptions n rest
              | none =>
                if s.extended then
                  complain ("set: " ++ name ++ ": invalid option name")
                  setStatus 2
                else seriousFault "set" ("Illegal option " ++ (if isOn then "-" else "+") ++ "o " ++
                  name)
          else setOptions n rest

/-! ## Variables -/

/-- A name and its value, if a word has that form. -/
def nameAndValue (word : String) : String × Option String :=
  match Text.splitOnce '=' word with
  | some (name, value) => (name, some value)
  | none => (word, none)

/-- A wrong name is complained about. -/
def refuseName (command word name : String) : Sh Unit := do
  if (← get).extended then fault command ("\x60" ++ word ++ "': not a valid identifier")
  else seriousFault command (name ++ ": bad variable name")

/-- How a variable is declared, as it would be written. -/
def declaration (name : String) (b : Binding) : String :=
  let letters := (match b.value with
    | some (.list _) => "a"
    | some (.table _) => "A"
    | _ => "") ++ (if b.isNumber then "i" else "") ++ (if b.isFixed then "r" else "") ++
      (if b.isExported then "x" else "")
  "declare -" ++ (if letters = "" then "-" else letters) ++ " " ++ name ++ (match b.value with
    | some (.text v) => "=" ++ doublyQuoted v
    | some v => "=" ++ (elementsText v).getD ""
    | none => "")

/-- Variables are marked, and set if a value is given. -/
def markVariables (command : String) (mark : Binding → Binding) (listed : Binding → Bool)
    (args : List String) : Sh Unit := do
  let s ← get
  let operands := args.filter fun a => !(["-p", "--", "-f", "-a", "-A"].contains a)
  setStatus 0
  if operands.isEmpty then
    let all := (s.bindings.filter fun (_, b) => listed b).mergeSort fun a b => decide (a.1 ≤ b.1)
    tell command (Octets.unlines (all.map fun (name, b) =>
      if s.extended then declaration name b
      else command ++ " " ++ name ++ (b.text?.elim "" fun v => "=" ++ quotedValue false v)))
  else
    for word in operands do
      let (name, value) := nameAndValue word
      if !(← isRunning) then return ()
      if !Reading.isName name then refuseName command word name
      else
        if let some value := value then
          let _ ← assign name value
        if ← isRunning then modify fun s => s.setBinding name (mark (s.binding name))

def exportVariables (args : List String) : Sh Unit := do
  match args with
  | "-n" :: rest =>
    for word in rest do
      let (name, value) := nameAndValue word
      if let some value := value then
        let _ ← assign name value
      modify fun s => s.setBinding name { s.binding name with isExported := false }
    setStatus 0
  | args => markVariables "export" ({ · with isExported := true }) (·.isExported) args

def fixVariables (args : List String) : Sh Unit :=
  markVariables "readonly" ({ · with isFixed := true }) (·.isFixed) args

/-- A variable of the running function covers the one that was known before. -/
def coverVariable (name : String) : Sh Unit := modify fun s =>
  match s.scopes with
  | [] => s
  | scope :: outer =>
    if (scope.lookup name).isSome then s
    else { s with scopes := ((name, s.bindings.lookup name) :: scope) :: outer }

def declareLocal (args : List String) : Sh Unit := do
  let s ← get
  if s.scopes.isEmpty then
    if s.extended then fault "local" "can only be used in a function"
    else seriousFault "local" "not in a function"
  else
    setStatus 0
    for word in args do
      let (name, value) := nameAndValue word
      if word.startsWith "-" then pure ()
      else if !Reading.isName name then refuseName "local" word name
      else
        coverVariable name
        if s.extended then
          modify fun s => s.setBinding name { Binding.empty with
            isExported := (s.binding name).isExported }
        if let some value := value then
          let _ ← assign name value

def unsetVariables (args : List String) : Sh Unit := do
  let functionsOnly := args.head? = some "-f"
  let variablesOnly := args.head? = some "-v"
  let operands := args.filter fun a => !(["-v", "-f", "-n", "--"].contains a)
  setStatus 0
  for word in operands do
    if !(← isRunning) then return ()
    let s ← get
    let base := String.ofList (word.toList.takeWhile (· != '['))
    if functionsOnly then modify fun s => { s with functions := s.functions.filter (·.1 != word) }
    else if base != word && s.extended then
      let key := String.ofList ((word.toList.drop (base.length + 1)).dropLast)
      let b := s.binding base
      match b.value with
      | some (.list elements) =>
        match ← evaluateText key with
        | some i =>
          let i := assignElement.resolve i elements
          modify fun s => s.setBinding base
            { b with value := some (.list (elements.filter (·.1 != i))) }
        | none => pure ()
      | some (.table elements) =>
        modify fun s => s.setBinding base
          { b with value := some (.table (elements.filter (·.1 != key))) }
      | _ => pure ()
    else if !Reading.isName word && (!s.extended || variablesOnly) then refuseName "unset" word word
    else if (s.binding word).isFixed then
      if s.extended then fault "unset" (word ++ ": cannot unset: readonly variable")
      else seriousFault "unset" (word ++ ": is read only")
    else if (s.bindings.lookup word).isSome then modify (·.dropBinding word)
    else if s.extended then modify fun s => { s with functions := s.functions.filter (·.1 != word) }

/-! ## Reading lines -/

/-- A character that was read, and whether it was escaped. -/
abbrev ReadChar := Char × Bool

/-- The characters of a line after its backslashes are dealt with, and whether the line goes on. -/
def unescapedLine : List Char → List ReadChar × Bool
  | [] => ([], false)
  | '\\' :: '\n' :: [] => ([], true)
  | '\\' :: [] => ([], false)
  | '\\' :: c :: cs =>
    let (rest, goesOn) := unescapedLine cs
    ((c, true) :: rest, goesOn)
  | c :: cs =>
    let (rest, goesOn) := unescapedLine cs
    (if c = '\n' then rest else (c, false) :: rest, goesOn)

/-- A line is read, and more lines as long as one goes on. The first argument bounds their
number. -/
def readLogical (raw : Bool) (mark : UInt8) : Nat → Supply → List ReadChar × Bool × Supply
  | 0, s => ([], false, s)
  | n + 1, s =>
    let (bytes, rest) := s.takeLine mark
    let text := (Octets.ofBytes bytes).toList
    let isClosed := bytes.size != 0 && bytes.get! (bytes.size - 1) == mark
    let text := if isClosed && mark != 10 then text.dropLast else text
    if raw then
      ((if isClosed && mark = 10 then text.dropLast else text).map (·, false), isClosed, rest)
    else
      let (cs, goesOn) := unescapedLine text
      if goesOn then
        let (more, isClosed, rest) := readLogical raw mark n rest
        (cs ++ more, isClosed, rest)
      else (cs, isClosed, rest)

/-- The fields of a line for some number of variables: the last one takes what is left. -/
def readFields (separators : String) : Nat → List ReadChar → List String
  | 0, _ => []
  | n + 1, cs =>
    let isMark (c : ReadChar) : Bool := !c.2 && separators.toList.contains c.1
    let isBlank (c : ReadChar) : Bool := isMark c && (c.1 = ' ' || c.1 = '\t' || c.1 = '\n')
    let cs := cs.dropWhile isBlank
    let text (cs : List ReadChar) : String := String.ofList (cs.map (·.1))
    let trimmedEnd (cs : List ReadChar) : List ReadChar := (cs.reverse.dropWhile isBlank).reverse
    if n = 0 then
      let whole := trimmedEnd cs
      -- one mark at the end of the last field belongs to it no more
      let field := whole.takeWhile (!isMark ·)
      let rest := (whole.drop field.length).dropWhile isBlank
      match rest with
      | [c] => if isMark c then [text field] else [text whole]
      | _ => [text whole]
    else
      let field := cs.takeWhile (!isMark ·)
      let rest := (cs.drop field.length).dropWhile isBlank
      let rest := match rest with
        | c :: more => if isMark c && !isBlank c then more else rest
        | [] => []
      text field :: readFields separators n rest

/-- The options of the command that reads: raw, the mark that ends a line, a number of characters, a
list to be filled, and a descriptor. -/
structure ReadOptions where
  raw : Bool
  mark : Option Char
  count : Option Nat
  exact : Bool
  list : Option String
  descriptor : Nat

/-- The options among arguments, and the names after them. -/
def ReadOptions.ofArgs (extended : Bool) :
    Nat → ReadOptions → List String → Option (ReadOptions × List String)
  | 0, o, args => some (o, args)
  | n + 1, o, args =>
    match args with
    | "--" :: rest => some (o, rest)
    | arg :: rest =>
      if !arg.startsWith "-" || arg = "-" then some (o, args)
      else
        match arg.toList.tail with
        | [] => some (o, args)
        | c :: cs =>
          let more (o : ReadOptions) : Option (ReadOptions × List String) :=
            ofArgs extended n o (if cs.isEmpty then rest else ("-" ++ String.ofList cs) :: rest)
          let valued (f : String → ReadOptions) : Option (ReadOptions × List String) :=
            if cs.isEmpty then
              match rest with
              | v :: rest => ofArgs extended n (f v) rest
              | [] => none
            else ofArgs extended n (f (String.ofList cs)) rest
          if c = 'r' then more { o with raw := true }
          else if c = 'p' then valued fun _ => o
          else if !extended then none
          else if c = 's' || c = 'e' then more o
          else if c = 'a' then valued fun v => { o with list := some v }
          else if c = 'd' then valued fun v => { o with mark := some (v.toList.headD '\x00') }
          else if c = 'n' then valued fun v => { o with count := Tool.decimal? v }
          else if c = 'N' then valued fun v => { o with count := Tool.decimal? v, exact := true }
          else if c = 'u' then valued fun v => { o with descriptor := (Tool.decimal? v).getD 0 }
          else if c = 't' || c = 'i' then valued fun _ => o
          else none
    | [] => some (o, [])

def readVariables (args : List String) : Sh Unit := do
  let s ← get
  match ReadOptions.ofArgs s.extended (2 * args.length + 20) ⟨false, none, none, false, none, 0⟩
      args with
  | none =>
    if s.extended then
      complain ("read: " ++ args.headD "" ++ ": invalid option")
      setStatus 2
    else fault "read" ("Illegal option " ++ args.headD "")
  | some (o, names) =>
    if names.isEmpty && !s.extended then
      fault "read" "arg count"
      return
    match s.descriptors.lookup o.descriptor with
    | none =>
      if s.extended then
        fault "read" ("read error: " ++ toString o.descriptor ++ ": Bad file descriptor")
      else setStatus 1
    | some stream =>
      let world := s.world.settle stream
      match world.supply? stream with
      | none => setStatus 1
      | some supply =>
        let mark : UInt8 := UInt8.ofNat ((o.mark.getD '\n').toNat)
        let (cs, isClosed, rest) : List ReadChar × Bool × Supply :=
          match o.count with
          | some k =>
            let line := supply.takeLine mark
            let width := if o.exact then k else min k line.1.size
            let (bytes, rest) := supply.take width
            let text := (Octets.ofBytes bytes).toList
            let text' := if o.exact then text else text.filter (· != '\n')
            (text'.map (·, false), decide (bytes.size = k) || (!o.exact && text.contains '\n'),
              rest)
          | none => readLogical o.raw mark 10000 supply
        let cs := cs.filter (·.1 != '\x00')
        set { s with world := world.setSupply stream rest }
        let all := String.ofList (cs.map (·.1))
        let mut hasFailed := false
        match o.list with
        | some name =>
          let fields := (readFields s.separators (cs.length + 1) cs)
          let fields := (fields.reverse.dropWhile (· = "")).reverse
          let _ ← assignValue name (.list (fields.zipIdx.map fun (v, i) => ((i : Int), v)))
        | none =>
          match names with
          | [] => let _ ← assign "REPLY" all
          | names =>
            let fields := if o.exact then [all] else readFields s.separators names.length cs
            for (name, i) in names.zipIdx do
              if ← isRunning then
                if !Reading.isName name then
                  fault "read" (if s.extended then "\x60" ++ name ++ "': not a valid identifier"
                    else name ++ ": bad variable name")
                  return
                else
                  let isSet ← assign name (fields.getD i "")
                  hasFailed := hasFailed || !isSet
        if ← isRunning then setStatus (if isClosed && !hasFailed then 0 else 1)

/-- A text cut after each mark, which belongs to the piece before it. -/
def cutAfter (mark : Char) : List Char → List (List Char)
  | [] => []
  | c :: cs =>
    if c = mark then [c] :: cutAfter mark cs
    else
      match cutAfter mark cs with
      | [] => [[c]]
      | piece :: pieces => (c :: piece) :: pieces

/-- The lines of the input as a list: all or some of them, from some index on. -/
def readLines (args : List String) : Sh Unit := do
  let s ← get
  match (Tool.Grammar.ofText "d:n:O:s:tu:C:c:" [] false).read args with
  | .error words =>
    complain ("mapfile: " ++ words)
    setStatus 2
  | .ok o =>
    let number (c : Char) : Option Nat := (o.value? c).elim (some 0) Tool.decimal?
    match number 'n', number 'O', number 's', number 'u' with
    | some count, some origin, some skipped, some descriptor =>
      let name := o.operands.headD "MAPFILE"
      let mark := ((o.value? 'd').map fun d => d.toList.headD '\x00').getD '\n'
      match s.descriptors.lookup descriptor with
      | none =>
        fault "mapfile" (toString descriptor ++ ": invalid file descriptor: Bad file descriptor")
      | some stream =>
        let world := s.world.settle stream
        let text := ((world.supply? stream).map Supply.text).getD ""
        let lines := (cutAfter mark text.toList).drop skipped
        let lines := if count = 0 then lines else lines.take count
        let shown := lines.map fun line =>
          String.ofList (if o.has 't' && line.getLast? = some mark then line.dropLast else line)
        let used := skipped + lines.length
        let taken := ((cutAfter mark text.toList).take used).foldl (fun n line => n + line.length) 0
        set { s with world := match world.supply? stream with
          | some supply =>
            world.setSupply stream
              (if count = 0 then { supply with position := supply.position + supply.remaining }
              else { supply with position := supply.position + taken })
          | none => world }
        let elements := shown.zipIdx.map fun (v, i) => (((i + origin : Nat) : Int), v)
        let old := if o.has 'O' then match (s.binding name).value with
            | some (.list all) =>
              all.filter fun (i, _) => i < origin || origin + elements.length ≤ i
            | _ => []
          else []
        let _ ← assignValue name (.list ((old ++ elements).mergeSort fun a b => decide (a.1 ≤ b.1)))
        setStatus 0
    | _, _, _, _ => fault "mapfile" "invalid line count"

/-! ## Traps, signals and jobs -/

/-- What is run at the end or when a signal comes is set. -/
def setTraps (args : List String) : Sh Unit := do
  let s ← get
  let args := if args.head? = some "--" then args.tail else args
  setStatus 0
  let normal (c : String) : Option String :=
    if s.extended && ["ERR", "DEBUG", "RETURN"].contains c then some c
      else (signal? c).map signalName
  let apply (text : Option String) (conditions : List String) : Sh Unit := do
    for c in conditions do
      match normal c with
      | some name => modify fun s =>
          let rest := s.traps.filter (·.1 != name)
          { s with traps := match text with
            | some text => rest ++ [(name, text)]
            | none => rest }
      | none =>
        if s.extended then fault "trap" (c ++ ": invalid signal specification")
        else
          let _ ← write 2 ("trap: " ++ c ++ ": bad trap\n")
          setStatus 1
  let listing (all : List (String × String)) : String :=
    Octets.unlines (all.map fun (name, text) => "trap -- '" ++ text.replace "'" "'\\''" ++ "' " ++
      (if s.extended && !(["EXIT", "ERR", "DEBUG", "RETURN"].contains name) then "SIG" else "") ++
        name)
  match args with
  | [] => tell "trap" (listing s.traps)
  | "-p" :: names =>
    tell "trap" (listing (if names.isEmpty then s.traps
      else s.traps.filter fun (name, _) => (names.filterMap normal).contains name))
  | "-l" :: _ => return ()
  | "-" :: conditions => apply none conditions
  | [only] =>
    if (normal only).isSome then apply none [only]
    else fault "trap" "usage: trap [-lp] [[arg] signal_spec ...]"
  | text :: conditions =>
    -- a number in front means that the conditions are set back
    if (Tool.decimal? text).isSome then apply none (text :: conditions)
      else apply (some text) conditions

/-- How a signal is sent is told where nothing is named to send it to. -/
def tellKillUsage : Sh Unit := do
  if (← get).extended then
    let _ ← write 2 ("kill: usage: kill [-s sigspec | -n signum | -sigspec] pid | jobspec ... " ++
      "or kill -l [sigspec]\n")
    setStatus 2
  else
    fault "kill" ("Usage: kill [-s sigspec | -signum | -sigspec] [pid | job]... or\n" ++
      "kill -l [exitstatus]")

/-- The job that an argument means. -/
def State.job? (s : State) (arg : String) : Option Job :=
  if arg.startsWith "%" then
    match Tool.decimal? (arg.drop 1).toString with
    | some (n + 1) => s.jobs.reverse[n]?
    | _ => s.jobs.head?
  else (Tool.decimal? arg).bind fun n => s.jobs.find? (·.number = n)

def sendSignal (perform : Performer) (args : List String) : Sh Unit := do
  let s ← get
  let (signal, targets) : Option Nat × List String :=
    match args with
    | "-s" :: name :: rest => (signal? name, rest)
    | "-n" :: name :: rest => (signal? name, rest)
    | "--" :: rest => (some 15, rest)
    | arg :: rest =>
      if arg.startsWith "-" && arg != "-" then (signal? (arg.drop 1).toString, rest)
        else (some 15, arg :: rest)
    | [] => (none, [])
  let targets := if targets.head? = some "--" then targets.tail else targets
  match args with
  | "-l" :: rest =>
    let all := signals.filter (·.2 != 0)
    tellWith "kill" (match rest with
      | [] => Octets.unlines (all.map (·.1))
      | arg :: _ =>
        match Tool.decimal? arg with
        | some n => signalName (n % 128) ++ "\n"
        | none => ((signal? arg).elim "" toString) ++ "\n") 0
  | _ =>
    match signal, targets with
    | none, _ =>
      if args.isEmpty then
        tellKillUsage
      else if s.extended then fault "kill" (args.headD "" ++ ": invalid signal specification")
      else fault "kill" ("Illegal option " ++ args.headD "")
    | some _, [] =>
      tellKillUsage
    | some signal, targets =>
      setStatus 0
      for target in targets do
        if !(← isRunning) then return ()
        let s ← get
        match s.job? target with
        | some job =>
          -- a job that has ended already is not reached any more
          if signal != 0 && !isHarmless signal && s.world.clock < job.finish then
            let jobs := s.jobs.map fun j => if j.number = job.number then
              { j with finish := s.world.clock, status := UInt8.ofNat (128 + signal) } else j
            set { s with jobs := jobs, world := s.world.stopJob job.number s.world.clock }
        | none =>
          match Tool.integer? target with
          | none =>
            if s.extended then fault "kill" (target ++ ": arguments must be process or job IDs")
            else fault "kill" ("Illegal number: " ++ target)
          | some n =>
            if n = s.ownNumber ∨ (n = 0 ∧ s.ownNumber = s.mainNumber) then
              if signal != 0 then receive perform signal
            else if n = s.mainNumber ∨ n = s.parentNumber ∨ n = 0 then
              if signal != 0 then
                let target := if n = 0 then s.mainNumber else n.toNat
                set { s with
                  world := { s.world with signals := (signal, target) :: s.world.signals } }
            else
              complain (if s.extended then "kill: (" ++ target ++ ") - No such process"
                else "kill: No such process\n")
              setStatus 1

/-- Jobs are forgotten. -/
def dropJobs (args : List String) : Sh Unit := do
  let s ← get
  if args.contains "-a" then set { s with jobs := [], status := 0 }
  else
    match args.filter (!·.startsWith "-") with
    | [] =>
      match s.jobs with
      | [] => fault "disown" "current: no such job"
      | _ :: jobs => set { s with jobs := jobs, status := 0 }
    | targets =>
      setStatus 0
      for target in targets do
        match (← get).job? target with
        | some job => modify fun s => { s with jobs := s.jobs.filter (·.number != job.number) }
        | none => fault "disown" (target ++ ": no such job")

def waitForJobs (perform : Performer) (args : List String) : Sh Unit := do
  let s ← get
  if !s.extended && args.any (fun a => a.startsWith "-" && a != "--") then
    fault "wait" ("Illegal option " ++ args.headD "")
    return
  let pass (time : Nat) : Sh Unit := modify fun s =>
    { s with world := s.world.pass (time - s.world.clock) }
  match args.filter (!·.startsWith "-") with
  | [] =>
    if args.contains "-n" then
      match s.jobs.mergeSort fun a b => decide (a.finish ≤ b.finish) with
      | [] => setStatus 127
      | job :: _ =>
        pass job.finish
        modify fun s => { s with
          jobs := s.jobs.filter (·.number != job.number),
          status := job.status }
    else
      pass (s.jobs.foldl (fun t j => max t j.finish) s.world.clock)
      modify fun s => { s with jobs := [], status := 0 }
  | targets =>
    for target in targets do
      match (← get).job? target with
      | some job =>
        pass job.finish
        modify fun s => { s with
          jobs := s.jobs.map (fun j =>
            if j.number = job.number then { j with finish := s.world.clock } else j),
          status := job.status }
      | none =>
        if s.extended then
          complain ("wait: pid " ++ target ++ " is not a child of this shell")
        setStatus 127
  receiveAll perform

/-! ## Options of scripts -/

/-- The next option of some words, by the letters that are known. The plain shell counts a word as
soon as its first letter is looked at, the extended one when its last one was. -/
def takeOption (args : List String) : Sh Unit := do
  let s ← get
  match args with
  | letters :: name :: rest =>
    if !s.extended && !Reading.isName name then
      fault "getopts" (name ++ ": bad variable name")
      return
    let words := if rest.isEmpty then s.parameters else rest
    let index := ((s.value? "OPTIND").bind Tool.decimal?).getD 1
    let isQuiet := letters.startsWith ":"
    let place := s.optionPlace
    let here := if 0 < place && !s.extended then index - 1 else index
    let word := words.getD (here - 1) ""
    let setIndex (i place : Nat) : Sh Unit := do
      let _ ← assign "OPTIND" (toString i)
      modify ({ · with optionPlace := place })
    let dropValue : Sh Unit := modify (·.dropBinding "OPTARG")
    let setValue (v : String) : Sh Unit := do
      let _ ← assign "OPTARG" v
    let answer (c : Char) : Sh Unit := do
      let _ ← assign name c.toString
      setStatus 0
    let stop (i : Nat) : Sh Unit := do
      setIndex i 0
      let _ ← assign name "?"
      if s.extended then dropValue
      setStatus 1
    if place = 0 && (words.length < here || !word.startsWith "-" || word = "-") then stop here
    else if place = 0 && word = "--" then stop (here + 1)
    else
      match word.toList.drop (place + 1) with
      | [] => stop (here + 1)
      | c :: more =>
        let goOn : Sh Unit :=
          if more.isEmpty then setIndex (here + 1) 0
          else setIndex (if s.extended then here else here + 1) (place + 1)
        let known := letters.toList.zip (letters.toList.tail ++ [' '])
        match (if c = ':' then none else known.find? (·.1 = c)) with
        | none =>
          goOn
          if isQuiet then setValue c.toString
          else
            dropValue
            let _ ← write 2 (if s.extended then s.name ++ ": illegal option -- " ++ c.toString ++
              "\n"
              else "Illegal option -" ++ c.toString ++ "\n")
          answer '?'
        | some (_, ':') =>
          if !more.isEmpty then
            setIndex (here + 1) 0
            setValue (String.ofList more)
            answer c
          else
            match words[here]? with
            | some value =>
              setIndex (here + 2) 0
              setValue value
              answer c
            | none =>
              setIndex (here + 1) 0
              if isQuiet then
                setValue c.toString
                answer ':'
              else
                dropValue
                let _ ← write 2 (if s.extended
                  then s.name ++ ": option requires an argument -- " ++ c.toString ++ "\n"
                  else "No arg for -" ++ c.toString ++ " option\n")
                answer '?'
        | some _ =>
          goOn
          if s.extended then dropValue else setValue ""
          answer c
  | _ =>
    if s.extended then
      let _ ← write 2 "getopts: usage: getopts optstring name [arg ...]\n"
      setStatus 2
    else fault "getopts" "Usage: getopts optstring var [arg...]"

/-! ## Other names for commands -/

/-- Texts are set that stand for the first words of commands, or they are told. -/
def setAliases (args : List String) : Sh Unit := do
  let s ← get
  let line (name text : String) : String :=
    (if s.extended then "alias " else "") ++ name ++ "='" ++ text.replace "'" "'\\''" ++ "'"
  setStatus 0
  if args.isEmpty || args = ["-p"] then
    tell "alias" (Octets.unlines
      ((s.aliases.mergeSort fun a b => decide (a.1 ≤ b.1)).map fun (n, t) => line n t))
  else
    for arg in args do
      match nameAndValue arg with
      | (name, some text) =>
        modify fun s => { s with aliases := (name, text) :: s.aliases.filter (·.1 != name) }
      | (name, none) =>
        match (← get).aliases.lookup name with
        | some text => tell "alias" (line name text ++ "\n")
        | none =>
          if s.extended then complain ("alias: " ++ name ++ ": not found")
          else let _ ← write 2 ("alias: " ++ name ++ " not found\n")
          setStatus 1

def unsetAliases (args : List String) : Sh Unit := do
  setStatus 0
  for arg in args do
    let s ← get
    if arg = "-a" then set { s with aliases := [] }
    else if (s.aliases.lookup arg).isSome then
      set { s with aliases := s.aliases.filter (·.1 != arg) }
    else
      if s.extended then complain ("unalias: " ++ arg ++ ": not found")
      else let _ ← write 2 ("unalias: " ++ arg ++ " not found\n")
      setStatus 1

/-! ## Kinds of commands -/

/-- The commands that change the shell in the plain shell. -/
def specialNames : List String :=
  ["break", ":", ".", "continue", "eval", "exec", "exit", "export", "readonly", "return", "set",
    "shift", "times", "trap", "unset"]

/-- The other commands of the plain shell. -/
def plainNames : List String :=
  ["[", "alias", "bg", "cd", "command", "echo", "false", "fg", "getopts", "hash", "jobs", "kill",
    "local", "printf", "pwd", "read", "test", "true", "type", "ulimit", "umask", "unalias", "wait"]

/-- The further commands of the extended shell. -/
def furtherNames : List String :=
  ["bind", "builtin", "caller", "compgen", "complete", "compopt", "declare", "dirs", "disown",
    "enable", "fc",
    "help", "history", "let", "logout", "mapfile", "popd", "pushd", "readarray", "shopt", "source",
      "suspend", "typeset"]

/-- Whether a command with a name is built in. -/
def isBuiltin (extended : Bool) (name : String) : Bool :=
  specialNames.contains name || plainNames.contains name || (extended && furtherNames.contains name)

/-- The words that form scripts. -/
def keywords (extended : Bool) : List String :=
  ["if", "then", "else", "elif", "fi", "do", "done", "case", "esac", "while", "until", "for",
    "\x7b",
    "\x7d", "!", "in"] ++ if extended then ["[[", "]]", "function", "select", "time"] else []

/-- What is found under a name in the search path: a program, or something that cannot be run. -/
inductive Lookup where
  | program (path : String)
  | denied (path : String)
  | missing

/-- A program is looked for in the search path. -/
def State.lookUpProgram (s : State) (name : String) : Lookup :=
  let directories := Text.split ':'
    ((s.value? "PATH").getD "/usr/local/sbin:/usr/local/bin:/usr/sbin:/usr/bin:/sbin:/bin")
  directories.foldl (fun found d =>
    match found with
    | .program _ => found
    | _ =>
      let path := if d = "" then (if s.extended then "./" ++ name else name)
        else if d.endsWith "/" then d ++ name else d ++ "/" ++ name
      match s.world.files.findEntry s.cwd ⟨Octets.toText path⟩ with
      | .ok (_, e) =>
        if e.isRegular && e.isExecutable then .program path
        else if e.isRegular then
          match found with
          | .missing => .denied path
          | found => found
        else found
      | .error _ => found) .missing

/-- What a name means, in words; none if nothing. -/
def describe (s : State) (name : String) : Option String :=
  if let some text := s.activeAliases.lookup name then
    some (name ++ if s.extended then " is aliased to \x60" ++ text ++ "'"
      else " is an alias for " ++ text)
  else if (keywords s.extended).contains name then some (name ++ " is a shell keyword")
  else if (s.functions.lookup name).isSome then
    some (name ++ if s.extended then " is a function" else " is a shell function")
  else if specialNames.contains name && !s.extended then
    some (name ++ " is a special shell builtin")
  else if isBuiltin s.extended name then some (name ++ " is a shell builtin")
  else if name.toList.contains '/' then
    match s.world.files.findEntry s.cwd ⟨Octets.toText name⟩ with
    | .ok (_, e) => if e.isRegular && e.isExecutable then some (name ++ " is " ++ name) else none
    | .error _ => none
  else
    match s.lookUpProgram name with
    | .program path =>
      some (name ++ (match (s.known.lookup name).isSome, s.extended with
        | false, _ => " is " ++ path
        | true, true => " is hashed (" ++ path ++ ")"
        | true, false => " is a tracked alias for " ++ path))
    | _ => none

/-- What a name means, as it can be called; none if nothing. -/
def callable (s : State) (name : String) : Option String :=
  if let some text := s.activeAliases.lookup name then
    some ("alias " ++ name ++ "='" ++ text.replace "'" "'\\''" ++ "'")
  else if (keywords s.extended).contains name || (s.functions.lookup name).isSome ||
      isBuiltin s.extended name then
    some name
  else if name.toList.contains '/' then
    match s.world.files.findEntry s.cwd ⟨Octets.toText name⟩ with
    | .ok (_, e) => if e.isRegular && e.isExecutable then some name else none
    | .error _ => none
  else
    match s.lookUpProgram name with
    | .program path => some path
    | _ => none

/-- What kind of thing a name means, in one word. -/
def kindOf (s : State) (name : String) : Option String :=
  if (s.activeAliases.lookup name).isSome then some "alias"
  else if (keywords s.extended).contains name then some "keyword"
  else if (s.functions.lookup name).isSome then some "function"
  else if isBuiltin s.extended name then some "builtin"
  else (callable s name).map fun _ => "file"

def tellTypes (args : List String) : Sh Unit := do
  let s ← get
  setStatus 0
  let (form, names) := match args with
    | "-t" :: names => ('t', names)
    | "-p" :: names => ('p', names)
    | "-P" :: names => ('p', names)
    | "-a" :: names => ('a', names)
    | names => ('v', names)
  for name in names do
    if form = 'v' && !s.extended && !isBuiltin false name && !name.toList.contains '/' then
      if let .program path := s.lookUpProgram name then modify (·.remember name path 0)
    match (if form = 't' then kindOf s name else if form = 'p' then
        (callable s name).filter (·.toList.contains '/') else describe s name) with
    | some words => tell "type" (words ++ "\n")
    | none =>
      if form = 't' || form = 'p' then setStatus 1
      else if s.extended then
        complain ("type: " ++ name ++ ": not found")
        setStatus 1
      else
        let _ ← write 1 (name ++ ": not found\n")
        setStatus 127

/-- Programs are looked for, so that they are known when they are called. -/
def findPrograms (args : List String) : Sh Unit := do
  setStatus 0
  let flags := args.takeWhile (·.startsWith "-")
  let names := args.drop flags.length
  let has (c : Char) : Bool := flags.any (·.toList.contains c)
  if has 'r' then modify ({ · with known := [] })
  if has 'd' then
    for name in names do
      if ((← get).known.lookup name).isNone then fault "hash" (name ++ ": not found")
      modify fun s => { s with known := s.known.filter (·.1 != name) }
  else if has 'p' then
    if let path :: name :: _ := names then modify (·.remember name path 0)
  else if has 't' then
    for name in names do
      match (← get).known.lookup name with
      | some (path, _) =>
        tell "hash" ((if 1 < names.length then name ++ "\t" else "") ++ path ++ "\n")
      | none => fault "hash" (name ++ ": not found")
  else
    for name in names do
      let s ← get
      if !isBuiltin s.extended name && (s.functions.lookup name).isNone then
        match s.lookUpProgram name with
        | .program path => modify fun s =>
          { s with known := s.known.filter (·.1 != name) ++ [(name, path, 0)] }
        | _ =>
          complain ("hash: " ++ name ++ ": not found")
          setStatus 1
    if names.isEmpty && !has 'r' then tellKnown (has 'l')
where
  /-- The known programs, in the order of the table in which a shell keeps them. -/
  tellKnown (asCommands : Bool) : Sh Unit := do
    let s ← get
    let bucket (name : String) : Nat :=
      if s.extended then
        (name.foldl (fun (h : UInt32) c => (h * 16777619) ^^^ UInt32.ofNat c.toNat)
          2166136261).toNat % 256
      else name.foldl (fun n c => n + c.toNat) (16 * (name.toList.headD '\x00').toNat) % 32768 % 31
    let all := (if s.extended then s.known.reverse else s.known).mergeSort fun a b =>
      decide (bucket a.1 ≤ bucket b.1)
    if !s.extended then tell "hash" (Octets.unlines (all.map (·.2.1)))
    else if all.isEmpty then tell "hash" "hash: hash table empty\n"
    else if asCommands then
      tell "hash" (Octets.unlines (all.map fun (name, path, _) => "builtin hash -p " ++ path ++
        " " ++ name))
    else
      tell "hash" ("hits\tcommand\n" ++ Octets.unlines (all.map fun (_, path, n) =>
        Tool.padLeft 4 (toString n) ++ "\t" ++ path))

/-- Commands of the shell are switched on and off, which is not noticed by anybody. -/
def switchCommands (args : List String) : Sh Unit := do
  setStatus 0
  for name in args.filter (!·.startsWith "-") do
    if !isBuiltin true name then fault "enable" (name ++ ": not a shell builtin")

/-- Something is told about commands of the shell. -/
def tellHelp (args : List String) : Sh Unit := do
  setStatus 0
  for name in args.filter (!·.startsWith "-") do
    if isBuiltin true name then tell "help" (name ++ ": " ++ name ++ "\n")
    else fault "help" ("no help topics match \x60" ++ name ++ "'.")

/-! ## Lists and numbers -/

/-- An element or a whole variable is set from the text of an assignment. -/
def assignText (name : String) (key : Option String) (adds : Bool) (value : String) : Sh Bool := do
  let s ← get
  let b := s.binding name
  match key with
  | none =>
    let value ← if b.isNumber then do
        let e := if adds then (b.text?.getD "0") ++ "+(" ++ value ++ ")" else value
        match ← evaluateText e with
        | some n => pure (toString n)
        | none => return false
      else pure (if adds then (b.text?.getD "") ++ value else value)
    assign name value
  | some key =>
    let isTable := match b.value with
      | some (.table _) => true
      | _ => false
    if isTable then
      let old := if adds then ((s.elements name).lookup key).getD "" else ""
      assignElement name (.inr key) (old ++ value)
    else
      match ← evaluateText key with
      | none => return false
      | some i =>
        let old := if adds then ((s.elements name).lookup (toString i)).getD "" else ""
        assignElement name (.inl i) (old ++ value)

/-- Variables are declared: what they are, and their values. -/
def declareVariables (command : String) (args : List String) : Sh Unit := do
  let isOption (a : String) : Bool := (a.startsWith "-" || a.startsWith "+") && 1 < a.length
  let flags := args.takeWhile isOption
  let operands := args.drop flags.length
  let has (c : Char) : Bool := flags.any fun f => f.startsWith "-" && f.toList.contains c
  let lacks (c : Char) : Bool := flags.any fun f => f.startsWith "+" && f.toList.contains c
  let s ← get
  setStatus 0
  if flags.any fun f => !f.toList.tail.all "aAfFgiIlnrtuxp-".toList.contains then
    complain (command ++ ": " ++ flags.headD "" ++ ": invalid option")
    setStatus 2
  else if has 'f' || has 'F' then
    if operands.isEmpty && has 'F' then
      let names := (s.functions.map (·.1)).mergeSort fun a b => decide (a ≤ b)
      tell command (Octets.unlines (names.map ("declare -f " ++ ·)))
    for name in operands do
      if (s.functions.lookup name).isNone then setStatus 1
      else if has 'F' then tell command (name ++ "\n")
  else if has 'p' || operands.isEmpty then
    if operands.isEmpty then
      let isAsked (b : Binding) : Bool :=
        let isList := match b.value with
          | some (.list _) => true
          | _ => false
        let isTable := match b.value with
          | some (.table _) => true
          | _ => false
        (!(has 'x' || command = "export") || b.isExported) &&
          (!(has 'r' || command = "readonly") || b.isFixed) &&
          (!has 'i' || b.isNumber) && (!has 'a' || isList) && (!has 'A' || isTable)
      let all := (s.bindings.filter fun (_, b) => isAsked b).mergeSort fun a b => decide (a.1 ≤ b.1)
      if flags.isEmpty && command = "declare" then
        tell command (Octets.unlines (all.filterMap fun (name, b) => b.text?.map fun v =>
          name ++ "=" ++ quotedValue true v))
      else tell command (Octets.unlines (all.map fun (name, b) => declaration name b))
    else
      for name in operands do
        match s.bindings.lookup name with
        | some b => tell command (declaration name b ++ "\n")
        | none => fault command (name ++ ": not found")
  else
    for word in operands do
      let (front, value) := nameAndValue word
      let adds := front.endsWith "+" && value.isSome
      let front := if adds then (front.dropEnd 1).toString else front
      let name := String.ofList (front.toList.takeWhile (· != '['))
      let key := if front.length = name.length then none
        else some (String.ofList ((front.toList.drop (name.length + 1)).dropLast))
      if !Reading.isName name then refuseName command word name
      else
        if !s.scopes.isEmpty && !has 'g' && command != "readonly" && command != "export" then
          let isNew := match (← get).scopes with
            | scope :: _ => (scope.lookup name).isNone
            | [] => false
          coverVariable name
          -- a list that was just set by this command stays
          if isNew && value.isNone && !((← get).binding name).isNumber then
            let isList := match ((← get).binding name).value with
              | some (.text _) => false
              | none => false
              | _ => true
            if !isList then
              modify fun s =>
                s.setBinding name { Binding.empty with isExported := (s.binding name).isExported }
        modify fun s =>
          let b := s.binding name
          let value := match b.value with
            | none =>
              if has 'A' then some (Value.table [])
              else if has 'a' then some (Value.list []) else none
            | some (.text v) =>
              if has 'A' then some (.table [("0", v)])
              else if has 'a' then some (.list [(0, v)])
              else some (.text v)
            | v => v
          s.setBinding name
            { b with value := value, isNumber := (b.isNumber || has 'i') && !lacks 'i' }
        if has 'n' then
          modify fun s => s.setBinding name
            { Binding.empty with value := value.map .text, isReference := true }
        else if let some value := value then
          let value := if has 'u' then value.map Char.toUpper
            else if has 'l' then value.map Char.toLower else value
          let _ ← assignText name key adds value
          -- a fault here ends a shell whose script is an argument
          modify fun s => if s.flow = .discarding && s.isArgument then { s with flow := .leaving 1 }
            else s
        if (← isRunning) && !has 'n' then
          modify fun s =>
            let b := s.binding name
            s.setBinding name { b with
              isExported := (b.isExported || has 'x' || command = "export") && !lacks 'x',
              isFixed := b.isFixed || has 'r' || command = "readonly" }

/-- Expressions are evaluated; the status says whether the last one is zero. -/
def evaluateAll (args : List String) : Sh Unit := do
  let mut last : Int := 0
  for arg in args do
    match ← evaluateText arg with
    | some n => last := n
    | none =>
      modify ({ · with status := 1, flow := .running })
      return ()
  setStatus (if last = 0 then 1 else 0)

/-- The further options that there are, each with whether it is on at the start. -/
def furtherOptions : List (String × Bool) :=
  [("autocd", false), ("assoc_expand_once", false), ("cdable_vars", false), ("cdspell", false),
    ("checkhash", false), ("checkjobs", false), ("checkwinsize", true), ("cmdhist", true),
    ("compat31", false),
    ("compat32", false), ("compat40", false), ("compat41", false), ("compat42", false),
    ("compat43", false),
    ("compat44", false), ("complete_fullquote", true), ("direxpand", false), ("dirspell", false),
    ("dotglob", false), ("execfail", false), ("expand_aliases", false), ("extdebug", false),
    ("extglob", false),
    ("extquote", true), ("failglob", false), ("force_fignore", true), ("globasciiranges", true),
    ("globskipdots", true), ("globstar", false), ("gnu_errfmt", false), ("histappend", false),
    ("histreedit", false), ("histverify", false), ("hostcomplete", true), ("huponexit", false),
    ("inherit_errexit", false), ("interactive_comments", true), ("lastpipe", false),
    ("lithist", false),
    ("localvar_inherit", false), ("localvar_unset", false), ("login_shell", false),
    ("mailwarn", false),
    ("no_empty_cmd_completion", false), ("nocaseglob", false), ("nocasematch", false),
    ("noexpand_translation", false), ("nullglob", false), ("patsub_replacement", true),
    ("progcomp", true),
    ("progcomp_alias", false), ("promptvars", true), ("restricted_shell", false),
    ("shift_verbose", false),
    ("sourcepath", true), ("varredir_close", false), ("xpg_echo", false)]

/-- Further options are set or told by their names. -/
def setFurther (args : List String) : Sh Unit := do
  let flags := (args.takeWhile (·.startsWith "-")).flatMap (·.toList.tail)
  let names := args.dropWhile (·.startsWith "-")
  let isOn (s : State) (name : String) : Bool := s.options.further.contains name
  setStatus 0
  if flags.contains 'o' then
    let s ← get
    for name in names do
      match (optionLetter? true name).bind (s.options.with? true (flags.contains 's') ·) with
      | some options =>
        if flags.contains 's' || flags.contains 'u' then modify ({ · with options := options })
        else
          let isOn := ((optionStates s).lookup name).getD false
          if !flags.contains 'q' then
            tell "shopt" (if flags.contains 'p' then "set " ++ (if isOn then "-o " else "+o ") ++
              name ++ "\n"
              else Tool.padRight 15 name ++ "\t" ++ (if isOn then "on" else "off") ++ "\n")
          if !isOn then setStatus 1
      | none => fault "shopt" (name ++ ": invalid option name")
  else
    let line (s : State) (name : String) : String :=
      if flags.contains 'p' then "shopt -" ++ (if isOn s name then "s " else "u ") ++ name
      else Tool.padRight 15 name ++ "\t" ++ if isOn s name then "on" else "off"
    if names.isEmpty && !flags.contains 'q' then
      let s ← get
      let shown := (furtherOptions.map (·.1)).filter fun name =>
        !(flags.contains 's' && !isOn s name) && !(flags.contains 'u' && isOn s name)
      tell "shopt" (Octets.unlines (shown.map (line s)))
    for name in names do
      let s ← get
      if (furtherOptions.lookup name).isNone then
        fault "shopt" (name ++ ": invalid shell option name")
      else if flags.contains 's' then
        set { s with
          options := { s.options with further := name :: s.options.further.filter (· != name) } }
      else if flags.contains 'u' then
        set { s with options := { s.options with further := s.options.further.filter (· != name) } }
      else
        if !flags.contains 'q' then tell "shopt" (line s name ++ "\n")
        if !isOn s name then setStatus 1

end CiHarness.Shell
