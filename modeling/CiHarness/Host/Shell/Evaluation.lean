import CiHarness.Host.Regex
import CiHarness.Host.Shell.Builtin
import CiHarness.Host.Tool.Files

/-!
# Running scripts

A script is run in a shell. The words of a command are replaced, its descriptors are led elsewhere
for as long as it runs, and then a function, a command of the shell or a program is called by the
first word. Commands with pipes between them run one after another, each in a shell of its own; what
one of them has written is what the next one reads. A command in the background runs ahead of the
time of the others.
-/
namespace CiHarness.Shell

/-! ## Scripts inside of words -/

/-- The output of a script that is run in a shell of its own. -/
def runnerOf (perform : Performer) : Runner := fun body s =>
  let (sink, world) := s.world.openSink
  let own : Sh Unit := do
    modify fun s => { s with
      descriptors := s.descriptors.connect 1 sink, isWatched := false,
      options := { s.options with
        stopsOnFailure := s.options.stopsOnFailure && (!s.extended || s.isOn "inherit_errexit") } }
    perform body
  let (ending, after) := (apart perform own).run { s with world := world }
  let world := after.world.settle sink
  let status := State.statusOf ending
  ((world.collected sink).text,
    { after with
      world := world, outputStatus := some status,
      status := if s.extended then status else after.status })

/-- How scripts are run by commands, and how programs are started. -/
structure Hands where
  outside : Outside
  perform : Performer

namespace Hands

def runner (h : Hands) : Runner := runnerOf h.perform

end Hands

/-! ## Redirections -/

/-- The descriptor that a path stands for. -/
def descriptorOf? (path : String) : Option Nat :=
  match path with
  | "/dev/stdin" => some 0
  | "/dev/stdout" => some 1
  | "/dev/stderr" => some 2
  | _ => if path.startsWith "/dev/fd/" then Tool.decimal? (path.drop 8).toString else none

/-- What is said about a file that cannot be opened. -/
def openComplaint (extended isMade : Bool) (path : String) (fault : FileFault) : String :=
  if extended then
    path ++ ": " ++ (if fault = .entryExists then "cannot overwrite existing file" else fault.words)
  else
    let isAbsent := fault = .system .noSuchEntry || fault = .system .notADirectory
    (if isMade then "cannot create " else "cannot open ") ++ path ++ ": " ++
      (if isAbsent then if isMade then "Directory nonexistent" else "No such file" else fault.words)

/-- A file is opened for reading. -/
def openForReading (s : State) (path : String) : Except FileFault (Nat × World) :=
  match s.world.files.findEntry s.cwd ⟨Octets.toText path⟩, descriptorOf? path with
  | .error e, some d =>
    match s.descriptors.lookup d with
    | some stream => .ok (stream, s.world)
    | none => .error (.system e)
  | .error e, none => .error (.system e)
  | .ok (here, entry), _ =>
    .ok (s.world.openStream (match entry.content with
      | .directory => .directory
      | .void => .void
      | .zeros => .zeros
      | .full => .full
      | _ => .file here 0 true false false))

/-- A file is opened for writing: made if there is none, and emptied unless something is added to
it. -/
def openForWriting (s : State) (path : String) (appends keeps protects : Bool) :
    Except FileFault (Nat × World) :=
  match (descriptorOf? path).filter fun _ => (s.world.files.findEntry s.cwd ⟨path⟩).toOption.isNone
      with
  | some d =>
    match s.descriptors.lookup d with
    | some stream => .ok (stream, s.world)
    | none => .error (.system .noSuchEntry)
  | none =>
    match s.world.files.landing s.cwd ⟨Octets.toText path⟩ with
    | .error e => .error (.system e)
    | .ok here =>
      let file (w : World) : Except FileFault (Nat × World) :=
        .ok (w.openStream (.file here 0 keeps true appends))
      match s.world.files.entry? here with
      | none =>
        let made : Entry := ⟨.file .empty, 0o666 - (0o666 &&& s.mask), s.world.clock⟩
        file { s.world with files := s.world.files.set here made }
      | some entry =>
        match entry.content with
        | .directory => .error (.system .isADirectory)
        | .void => .ok (s.world.openStream .void)
        | .zeros => .ok (s.world.openStream .zeros)
        | .full => .ok (s.world.openStream .full)
        | _ =>
          if protects then .error .entryExists
          else file (if appends || keeps then s.world else s.world.setFile here .empty)

/-- A redirection cannot be made. -/
def refuse (words : String) : Sh Bool := do
  complain words
  setStatus (← faultStatus)
  return false

/-- A descriptor leads to a stream. -/
def connect (descriptor stream : Nat) (world : World) : Sh Bool := do
  modify fun s => { s with world := world, descriptors := s.descriptors.connect descriptor stream }
  return true

/-- One redirection of a descriptor is made; false after a complaint. -/
def redirectNumber (h : Hands) (descriptor : Nat) (direction : Direction)
    (target : Word) : Sh Bool := do
  let text ← wholeText h.runner target
  if !(← isRunning) then return false
  let s ← get
  let opened (isMade : Bool) (found : Except FileFault (Nat × World)) : Sh Bool :=
    match found with
    | .ok (stream, world) => connect descriptor stream world
    | .error fault => refuse (openComplaint s.extended isMade text fault)
  match direction with
  | .read => opened false (openForReading s text)
  | .write => opened true (openForWriting s text false false s.options.protectsFiles)
  | .append => opened true (openForWriting s text true false false)
  | .overwrite => opened true (openForWriting s text false false false)
  | .readWrite => opened true (openForWriting s text false true false)
  | .here =>
    let (stream, world) := s.world.openStream (.source (.ofText text))
    connect descriptor stream world
  | .duplicate =>
    if text = "-" then
      modify fun s => { s with descriptors := s.descriptors.disconnect descriptor }
      return true
    let moves := s.extended && text.endsWith "-"
    let digits := if moves then (text.dropEnd 1).toString else text
    match Tool.decimal? digits with
    | some d =>
      match s.descriptors.lookup d with
      | some stream =>
        let _ ← connect descriptor stream s.world
        if moves then modify fun s => { s with descriptors := s.descriptors.disconnect d }
        return true
      | none => refuse (digits ++ ": Bad file descriptor")
    | none =>
      if s.extended then refuse (text ++ ": ambiguous redirect")
      else
        abort "Syntax error: Bad fd number"
        return false
  | .writeAll =>
    if ← opened true (openForWriting s text false false s.options.protectsFiles) then
      let s ← get
      connect 2 ((s.descriptors.lookup 1).getD 0) s.world
    else return false
  | .appendAll =>
    if ← opened true (openForWriting s text true false false) then
      let s ← get
      connect 2 ((s.descriptors.lookup 1).getD 0) s.world
    else return false

/-- The lowest descriptor from ten on that is not in use. -/
def freeDescriptor (ds : Descriptors) : Nat :=
  10 + ((List.range ds.length).takeWhile fun i => (ds.lookup (10 + i)).isSome).length

/-- One redirection is made; false after a complaint. -/
def redirect (h : Hands) : Redirect → Sh Bool
  | .mk descriptor direction target => redirectNumber h descriptor direction target
  | .named holder direction target => do
    let s ← get
    let closes := direction = .duplicate && bareText? target = some "-"
    let held := (s.value? holder).bind Tool.decimal?
    match closes, held with
    | true, some d => redirectNumber h d direction target
    | true, none => refuse (holder ++ ": ambiguous redirect")
    | false, _ =>
      let d := freeDescriptor s.descriptors
      if ← redirectNumber h d direction target then assignText holder none false (toString d)
      else return false

/-- Descriptors that a command got under names stay in use after it. -/
def keepNamed (rs : List Redirect) (before : Descriptors) : Sh Unit := modify fun s =>
  let kept := rs.filterMap fun
    | .named holder _ _ => do
      let d ← (s.value? holder).bind Tool.decimal?
      return (d, ← s.descriptors.lookup d)
    | .mk .. => none
  { s with descriptors := kept.foldl (fun ds (d, stream) => ds.connect d stream) before }

/-- Redirections are made from left to right. -/
def redirectAll (h : Hands) : List Redirect → Sh Bool
  | [] => return true
  | r :: rest => do if ← redirect h r then redirectAll h rest else return false

/-- Something is done with redirected descriptors, which are then as before. -/
def withRedirects (h : Hands) (rs : List Redirect) (body : Sh Unit) : Sh Unit := do
  let before := (← get).descriptors
  if ← redirectAll h rs then body
  keepNamed rs before

/-! ## Failures -/

/-- A command that has failed ends the shell if that is asked for and nobody looks at its status. -/
def checkFailure (perform : Performer) : Sh Unit := do
  let s ← get
  if s.isRunning && s.status != 0 && !s.isWatched then
    if let some text := (s.traps.lookup "ERR").filter fun _ => s.scopes.isEmpty then
      set { s with isWatched := true }
      performText perform "" text
      modify fun t =>
        { t with isWatched := s.isWatched, status := if t.isRunning then s.status else t.status }
    if s.options.stopsOnFailure && (← isRunning) then leave s.status

/-- Something is done whose status is looked at. -/
def watched (body : Sh Unit) : Sh Unit := do
  let before := (← get).isWatched
  modify ({ · with isWatched := true })
  body
  modify ({ · with isWatched := before })

/-! ## Assignments -/

/-- An assignment is made; false if it cannot be. -/
def performAssignment (h : Hands) : Assignment → Sh Bool
  | .single name index adds value => do
    let key ← match index with
      | none => pure none
      | some w => some <$> wholeText h.runner w
    let text ← assignedText h.runner value
    if !(← isRunning) then return false
    if (← get).options.tracesCommands then
      let _ ← write 2 ("+ " ++ name ++ "=" ++ text ++ "\n")
    assignText name key adds text
  | .several name adds values => do
    let s ← get
    let old := if adds then (s.binding name).value else none
    let isTable := match (s.binding name).value with
      | some (.table _) => true
      | _ => false
    if isTable then
      let mut elements : List (String × String) := match old with
        | some (.table elements) => elements
        | _ => []
      for (key, value) in values do
        let text ← assignedText h.runner value
        if !(← isRunning) then return false
        let k ← match key with
          | some w => wholeText h.runner w
          | none => pure text
        elements := (elements.filter (·.1 != k)) ++ [(k, text)]
      assignValue name (.table elements)
    else
      let mut elements : List (Int × String) := match old with
        | some (.list elements) => elements
        | some (.text v) => [(0, v)]
        | _ => []
      let mut next : Int := ((elements.getLast?.map (·.1)).getD (-1)) + 1
      for (key, value) in values do
        match key with
        | some w =>
          let text ← assignedText h.runner value
          match ← evaluateText (← wholeText h.runner w) with
          | some i =>
            elements := assign.insertElement i text elements
            next := i + 1
          | none => return false
        | none =>
          for text in ← fields h.runner value do
            elements := assign.insertElement next text elements
            next := next + 1
        if !(← isRunning) then return false
      assignValue name (.list elements)

def performAssignments (h : Hands) : List Assignment → Sh Bool
  | [] => return true
  | a :: rest => do if ← performAssignment h a then performAssignments h rest else return false

/-- The name that an assignment sets. -/
def assignedName : Assignment → String
  | .single name .. => name
  | .several name .. => name

/-- Something is done under assignments that hold no longer than it. -/
def withAssignments (h : Hands) (all : List Assignment) (body : Sh Unit) : Sh Unit := do
  let before := (← get).bindings
  let areMade ← performAssignments h all
  if areMade || ((← get).extended && (← isRunning)) then
    let names := all.map assignedName
    for name in names do
      modify fun s => s.setBinding name { s.binding name with isExported := true }
    body
    for name in names do
      modify fun s => match before.lookup name with
        | some b => s.setBinding name b
        | none => s.dropBinding name
  else if ← isRunning then setStatus 1

/-! ## Calls -/

/-- How deep functions call functions. -/
def callDepth : Nat := 800

/-- A function is called. -/
def callFunction (h : Hands) (name : String) (body : Script) (args : List String) : Sh Unit := do
  let s ← get
  if callDepth < s.scopes.length then
    set { s with flow := .killed 11 }
    return
  set { s with
    parameters := args, scopes := [] :: s.scopes, loops := 0,
    callers := name :: s.callers }
  h.perform body
  modify fun t =>
    let covered := t.scopes.headD []
    let t := covered.foldl (fun t (name, b) => match b with
      | some b => t.setBinding name b
      | none => t.dropBinding name) t
    { t with
      parameters := s.parameters, scopes := s.scopes, loops := s.loops, callers := s.callers,
      flow := if t.flow = .returning then .running else t.flow }

/-- What is said about a program that cannot be started, and the status. -/
def startComplaint (s : State) (name : String) (e : SystemError) : String × UInt8 :=
  let isAbsent := e = .noSuchEntry || e = .notADirectory || e = .symlinkLoop || e = .nameTooLong
  let status : UInt8 := if isAbsent then 127 else 126
  let words :=
    if s.extended then e.words
    else if e = .noSuchEntry || e = .notADirectory then "not found" else e.words
  (name ++ ": " ++ words, status)

/-- A program ends, and so does the shell if it was replaced by it or would end next. -/
def takeEnding (isFinal : Bool) (ending : Ending) (world : World) : Sh Unit := modify fun s =>
  let status := State.statusOf ending
  let flow := match ending with
    | .killed signal => if isFinal && s.traps.isEmpty then .killed signal else s.flow
    | .exited _ => s.flow
  { s with world := world, status := status, flow := flow }

/-- A file that names no interpreter is run as a script of the same kind of shell. -/
def runAsScript (h : Hands) (path : String) (args : List String) : Sh Unit := do
  let s ← get
  match s.world.files.findEntry s.cwd ⟨Octets.toText path⟩ with
  | .ok (here, _) =>
    let text := Octets.ofBytes (s.world.fileBytes here)
    let line := text.toList.takeWhile (· != '\n')
    if s.extended && line.contains '\x00' then
      complain (path ++ ": cannot execute binary file: Exec format error")
      setStatus 126
    else
      let ending ← apart h.perform do
        modify fun s => { s with
          name := path, parameters := args, functions := [], scopes := [], loops := 0,
          options := { Options.initial with
            further := if s.extended then (furtherOptions.filter (·.2)).map (·.1) else [] }
          bindings := s.bindings.filter (·.2.isExported), line := 1, isWatched := false }
        performText h.perform "" text
      setStatus (State.statusOf ending)
  | .error _ => setStatus 127

/-- A program is started by its name. -/
def startProgram (h : Hands) (isFinal : Bool) (name : String) (args : List String) : Sh Unit := do
  let s ← get
  let refuse (words : String) (status : UInt8) : Sh Unit := do
    complain words
    setStatus status
  let startAt (path : String) : Sh Unit := do
    match h.outside.start s.setting path (name :: args) s.world with
    | .ok (ending, world) => takeEnding isFinal ending world
    | .error .execFormat => runAsScript h path args
    | .error e =>
      let isDirectory := (s.world.files.findEntry s.cwd ⟨Octets.toText path⟩).toOption.any
        (·.2.isDirectory)
      if s.extended && isDirectory then refuse (name ++ ": Is a directory") 126
      else
        let (words, status) := startComplaint s name e
        refuse words status
  if name.toList.contains '/' then startAt name
  else
    match s.lookUpProgram name with
    | .program path =>
      set (s.remember name path 1)
      startAt path
    | .denied path =>
      if s.extended then refuse (path ++ ": Permission denied") 126
        else refuse (name ++ ": Permission denied") 127
    | .missing => refuse (name ++ if s.extended then ": command not found" else ": not found") 127

/-- The shell is replaced by a program. -/
def replaceShell (h : Hands) (args : List String) : Sh Unit := do
  let args := match args with
    | "-a" :: _ :: rest => rest
    | "-c" :: rest => rest
    | "--" :: rest => rest
    | args => args
  match args with
  | [] => setStatus 0
  | name :: rest =>
    -- what was asked for at the end is not run any more
    let s ← get
    set { s with traps := [] }
    let isHere := if name.toList.contains '/' then true else match s.lookUpProgram name with
      | .missing => false
      | _ => true
    if !isHere then
      complain ("exec: " ++ name ++ ": not found")
      leave 127
    else
      startProgram h true name rest
      if ← isRunning then leave (← get).status

/-- The commands of a file are run in this shell. -/
def performFile (h : Hands) (name : String) (args : List String) : Sh Unit := do
  match args with
  | [] =>
    if (← get).extended then
      complain (name ++ ": filename argument required")
      setStatus 2
    else setStatus 0
  | path :: parameters =>
    let s ← get
    let candidates := if path.toList.contains '/' then [path]
      else ((Text.split ':' ((s.value? "PATH").getD "")).map fun d =>
        if d = "" then path else d ++ "/" ++ path) ++ if s.extended then [path] else []
    let found := candidates.findSome? fun p =>
      match s.world.files.findEntry s.cwd ⟨Octets.toText p⟩ with
      | .ok (here, entry) => if entry.isRegular then some here else none
      | .error _ => none
    match found with
    | none =>
      if s.extended then
        complain (path ++ ": No such file or directory")
        setStatus 1
      else if path.toList.contains '/' then
        complain (name ++ ": cannot open " ++ path ++ ": No such file")
        leave 2
      else seriousFault name (path ++ ": not found")
    | some here =>
      let text := Octets.ofBytes (s.world.fileBytes here)
      set { s with
        scopes := [] :: s.scopes, status := 0, line := 1,
        parameters := if parameters.isEmpty || !s.extended then s.parameters else parameters }
      performText h.perform "" text
      modify fun t => { t with
        scopes := s.scopes, line := s.line,
        parameters := if parameters.isEmpty || !s.extended then t.parameters else s.parameters,
        flow := if t.flow = .returning then .running else t.flow }

/-- A format is written with its arguments, or set as a variable. -/
def writeFormat (args : List String) : Sh Unit := do
  let s ← get
  let d : FormatDialect := if s.extended then .extended (.ofClock s.world.clock) else .builtIn
  let (target, args) : Option String × List String :=
    match args with
    | "-v" :: name :: rest => if s.extended then (some name, rest) else (none, args)
    | args => (none, args)
  let args := if args.head? = some "--" then args.tail else args
  match args with
  | [] =>
    if s.extended then
      let _ ← write 2 "printf: usage: printf [-v var] format [arguments]\n"
      setStatus 2
    else fault "printf" "usage: printf format [arg ...]"
  | format :: args =>
    if format.startsWith "-" && 1 < format.length then
      complain ("printf: " ++ if s.extended then format ++ ": invalid option"
        else "Illegal option " ++ format)
      setStatus 2
    else
      let (status, text, complaints) := d.render format args
      for words in complaints do complain ("printf: " ++ words)
      match target with
      | some name =>
        let base := String.ofList (name.toList.takeWhile (· != '['))
        if !Reading.isName base then
          complain ("printf: \x60" ++ name ++ "': not a valid identifier")
          setStatus 2
          return
        let key := if base = name then none
          else some (String.ofList ((name.toList.drop (base.length + 1)).dropLast))
        let _ ← assignText base key false text
        if ← isRunning then setStatus status
      | none => tellWith "printf" text status

/-- A condition is judged. -/
def judgeCondition (name : String) (args : List String) : Sh Unit := do
  let s ← get
  let surroundings : Surroundings := ⟨s.world.files, s.cwd, s.environment, s.world.clock, s.mask⟩
  let judge : Tool.Judge := ⟨surroundings, fun v => (s.value? v).isSome, s.extended⟩
  -- a bracket that is missing ends no shell
  match Tool.judge judge name args with
  | (status, none) => setStatus status
  | (status, some words) =>
    complain words
    setStatus status

/-- The permissions that new files lack are told or set. -/
def maskPermissions (args : List String) : Sh Unit := do
  let s ← get
  let triple (n : Nat) : String :=
    (if n &&& 4 = 0 then "r" else "") ++ (if n &&& 2 = 0 then "w" else "") ++
    (if n &&& 1 = 0 then "x" else "")
  match args with
  | [] =>
    let digits := Nat.toDigits 8 s.mask
    tellWith "umask" (String.ofList (List.replicate (4 - digits.length) '0' ++ digits) ++ "\n") 0
  | "-S" :: _ =>
    tellWith "umask"
      ("u=" ++ triple (s.mask / 64) ++ ",g=" ++ triple (s.mask / 8) ++ ",o=" ++ triple s.mask ++
        "\n") 0
  | m :: _ =>
    if m.all fun c => '0' ≤ c && c ≤ '7' then
      set { s with mask := m.foldl (fun n c => 8 * n + (c.toNat - 48)) 0 % 512, status := 0 }
    else
      match Tool.permissions? false 0 m (0o777 - s.mask) with
      | some mode => set { s with mask := 0o777 - mode % 512, status := 0 }
      | none => fault "umask" ("Illegal number: " ++ m)

/-- The limits of the processes are told; that they are set is not noticed by anybody. -/
def tellLimits (args : List String) : Sh Unit := do
  let letters := args.filter (·.startsWith "-")
  let extended := (← get).extended
  let known := (if extended then "SHabcdefiklmnpqrstuvxPRT" else "HSatfdscmlpnvwr").toList
  if letters.any fun arg => !arg.toList.tail.all known.contains then
    complain ("ulimit: " ++ letters.headD "" ++ ": invalid option")
    setStatus 2
  else if args.all (·.startsWith "-") then
    tellWith "ulimit" (if letters.contains "-c" then "0\n"
      else if letters.contains "-n" then "1024\n"
      else "unlimited\n") 0
  else setStatus 0

/-- Jobs cannot be brought to the front. -/
def resumeJob (name : String) : Sh Unit := do
  fault name (if (← get).extended then "no job control" else "No current job")

/-- Texts are written with blanks between them. -/
def echo (args : List String) : Sh Unit := do
  let text := if (← get).extended then Tool.echoText Tool.echoEscapesExtended args
    else Tool.echoPlain args
  tellWith "echo" text 0

/-- The parameters and options are set, or all variables are told. -/
def setOrTell (args : List String) : Sh Unit := do
  if args.isEmpty then tellWith "set" (variableTable (← get)) 0
    else setOptions (args.length + 1) args

/-- Variables are exported, fixed or made local; the extended shell does so as it declares. -/
def markOrDeclare (name : String) (plain : List String → Sh Unit)
    (args : List String) : Sh Unit := do
  let s ← get
  let isListing := args.isEmpty || args.head? = some "-p" || args.head? = some "-n"
  let declares := s.extended && if name = "local" then !s.scopes.isEmpty else !isListing
  if declares then declareVariables name args else plain args

/-- The commands that call no other command by its name. -/
def commands (h : Hands) : List (String × (List String → Sh Unit)) :=
  [(":", fun _ => setStatus 0), ("true", fun _ => setStatus 0), ("false", fun _ => setStatus 1),
    ("echo", echo), ("printf", writeFormat), ("test", judgeCondition "test"),
    ("[", judgeCondition "["),
    ("cd", changeDirectory), ("pwd", tellDirectory), ("exit", exitShell), ("return", returnFrom),
    ("break", leaveLoops true), ("continue", leaveLoops false), ("shift", shiftParameters),
    ("set", setOrTell), ("export", markOrDeclare "export" exportVariables),
    ("readonly", markOrDeclare "readonly" fixVariables),
    ("local", markOrDeclare "local" declareLocal),
    ("unset", unsetVariables), ("read", readVariables), ("trap", setTraps),
    ("kill", sendSignal h.perform),
    ("wait", waitForJobs h.perform), ("getopts", takeOption), ("type", tellTypes),
    ("eval", fun args =>
      performText h.perform "eval"
        (Tool.spaced (if args.head? = some "--" then args.tail else args))),
    ("exec", replaceShell h), (".", performFile h "."), ("source", performFile h "source"),
    ("umask", maskPermissions), ("ulimit", tellLimits),
    ("times", fun _ => tellWith "times" "0m0.000000s 0m0.000000s\n0m0.000000s 0m0.000000s\n" 0),
    ("fg", fun _ => resumeJob "fg"), ("bg", fun _ => resumeJob "bg"), ("let", evaluateAll),
    ("declare", declareVariables "declare"), ("typeset", declareVariables "typeset"),
    ("shopt", setFurther),
    ("mapfile", readLines), ("readarray", readLines), ("caller", fun _ => setStatus 1),
    ("hash", findPrograms), ("enable", switchCommands), ("help", tellHelp), ("disown", dropJobs),
    ("suspend", fun _ => fault "suspend" "cannot suspend: no job control"),
    ("logout", fun _ => fault "logout" "not login shell: use \x60exit'"),
    ("pushd", pushDirectory), ("popd", popDirectory), ("dirs", fun _ => tellDirectories "dirs"),
    ("alias", setAliases), ("unalias", unsetAliases)]

/-- A command of the shell is called; the first argument bounds how often commands are called by
commands. -/
def callBuiltin (h : Hands) (isFinal : Bool) : Nat → String → List String → Sh Unit
  | 0, _, _ => setStatus 1
  | n + 1, name, args => do
    let s ← get
    match name, args with
    | "command", "-v" :: names =>
      let names := if s.extended then names else names.take 1
      for name in names do
        if let some path := (callable s name).filter fun p => p.startsWith "/" && p != name then
          if !s.extended then modify (·.remember name path 0)
      let found := names.filterMap (callable s)
      tellWith "command" (Octets.unlines found)
        (if found.isEmpty then (if s.extended then 1 else 127) else 0)
    | "command", "-V" :: names => tellTypes (if s.extended then names else names.take 1)
    | "command", args =>
      match args.dropWhile fun a => a = "-p" || a = "--" with
      | [] => setStatus 0
      | name :: rest =>
        if isBuiltin s.extended name then
          callBuiltin h isFinal n name rest
          -- what would end the shell is only a failure here
          let t ← get
          let ends := name = "exit" || name = "exec" || name = "return" || name = "." ||
            name = "eval"
          if !t.isRunning && !ends then
            match t.flow with
            | .leaving status => set { t with flow := s.flow, status := status }
            | _ => return ()
          else if name = "." && t.flow = .leaving 2 then
            set { t with flow := .running, status := 2 }
        else startProgram h isFinal name rest
    | "builtin", [] => setStatus 0
    | "builtin", name :: rest =>
      if isBuiltin s.extended name then callBuiltin h isFinal n name rest
      else
        complain ("builtin: " ++ name ++ ": not a shell builtin")
        setStatus 1
    | name, args =>
      match (commands h).lookup name with
      | some call => call args
      | none => setStatus 0

/-! ## Simple commands -/

/-- The words of a command that declares are not split where they assign. -/
def declaredFields (h : Hands) (words : List Word) : Sh (List String) := do
  let mut all : List String := []
  for w in words do
    if !(← isRunning) then return []
    match assignment? true w with
    | some (.single name index adds value) =>
      let key ← match index with
        | none => pure ""
        | some w => do pure ("[" ++ (← wholeText h.runner w) ++ "]")
      all := all ++ [name ++ key ++ (if adds then "+=" else "=") ++ (← assignedText h.runner value)]
    | _ => all := all ++ (← fields h.runner w)
  return all
where
  assignment? := Reading.assignment?

/-- A command is traced before it is run. -/
def trace (words : List String) : Sh Unit := do
  if (← get).options.tracesCommands then
    let quoted (w : String) : String :=
      if w = "" then "''"
      else if w.all fun c => c.isAlphanum || "%+,-./:=@_[]*?!~^".toList.contains c then w
      else "'" ++ w.replace "'" "'\\''" ++ "'"
    let _ ← write 2 ("+ " ++ " ".intercalate (words.map quoted) ++ "\n")

/-- A command is called by its first word. -/
def callWords (h : Hands) (isFinal : Bool) (assignments : List Assignment)
    (redirects : List Redirect) (name : String) (args : List String) : Sh Unit := do
  let s ← get
  let isSpecial := specialNames.contains name
  let function? := if isSpecial && !s.extended then none else s.functions.lookup name
  let before := s.descriptors
  if !(← redirectAll h redirects) then
    modify ({ · with descriptors := before })
    if isSpecial && !s.extended && (← isRunning) then leave (← get).status
    return
  if name = "exec" && function?.isNone then
    let _ ← performAssignments h assignments
    if ← isRunning then
      if args.isEmpty then setStatus 0
      else
        replaceShell h args
        modify ({ · with descriptors := before })
    return
  match function? with
  | some body => withAssignments h assignments (callFunction h name body args)
  | none =>
    if isSpecial && !s.extended then
      if ← performAssignments h assignments then callBuiltin h isFinal (args.length + 1) name args
    else if isBuiltin s.extended name then
      withAssignments h assignments (callBuiltin h isFinal (args.length + 1) name args)
    else withAssignments h assignments (startProgram h isFinal name args)
  keepNamed redirects before

/-- A simple command. -/
def performSimple (h : Hands) (isFinal : Bool) (line : Nat) (assignments : List Assignment)
    (words : List Word) (redirects : List Redirect) : Sh Unit := do
  modify ({ · with line := line, outputStatus := none })
  let declares := (← get).extended && ((words.head?.bind bareText?).any
    ["declare", "typeset", "local", "readonly", "export"].contains)
  let texts ← if declares then declaredFields h words else allFields h.runner words
  if !(← isRunning) then return ()
  match texts with
  | [] =>
    let before := (← get).descriptors
    if ← redirectAll h redirects then
      if ← performAssignments h assignments then
        modify fun s => { s with status := s.outputStatus.getD 0 }
      else if ← isRunning then
        modify fun s => { s with status := 1, flow := if s.extended then .discarding else .running }
    modify ({ · with descriptors := before })
  | name :: args =>
    trace texts
    -- lists of a command that declares are set after it
    let isList : Assignment → Bool
      | .several .. => true
      | .single .. => false
    if declares then
      callWords h isFinal (assignments.filter (!isList ·)) redirects name args
      if ← isRunning then
        let status := (← get).status
        let t ← get
        let fixed := assignments.map fun a => (assignedName a, (t.binding (assignedName a)).isFixed)
        for (n, _) in fixed do
          modify fun s => s.setBinding n { s.binding n with isFixed := false }
        let _ ← performAssignments h (assignments.filter isList)
        for (n, f) in fixed do
          modify fun s => s.setBinding n { s.binding n with isFixed := f }
        if ← isRunning then setStatus status
    else callWords h isFinal assignments redirects name args
    if name != "exec" then performChannels h.perform
  modify fun s => { s with statuses := [s.status] }

/-! ## Pipelines and the background -/

/-- How much a reader may leave unread before the writer notices. -/
def pipeSize : Nat := 65536

/-- Commands with pipes between them: their statuses. -/
def performStages (perform : Performer) : Option Nat → List Script → Sh (List UInt8)
  | _, [] => return []
  | input, stage :: rest => do
    let s ← get
    let (sink, world) := s.world.openSink
    if rest.isEmpty && s.isOn "lastpipe" then
      if let some stream := input then set { s with descriptors := s.descriptors.connect 0 stream }
      perform stage
      modify ({ · with descriptors := s.descriptors })
      return [(← get).status]
    set { s with world := if rest.isEmpty then s.world else world }
    let ending ← apart perform do
      modify fun s =>
        let descriptors := match input with
          | some stream => s.descriptors.connect 0 stream
          | none => s.descriptors
        { s with descriptors := if rest.isEmpty then descriptors else descriptors.connect 1 sink }
      perform stage
    if rest.isEmpty then return [State.statusOf ending]
    else
      let s ← get
      let world := s.world.settle sink
      let (source, world) := world.openStream (.source (world.collected sink))
      set { s with world := world }
      let statuses ← performStages perform (some source) rest
      let isLeft := match (← get).world.streams[source]? with
        | some (.source left) => decide (pipeSize < left.remaining)
        | _ => false
      return (if isLeft then 141 else State.statusOf ending) :: statuses

def performPipeline (perform : Performer) (stages : List Script) : Sh Unit := do
  let statuses ← performStages perform none stages
  let s ← get
  let last := statuses.getLastD 0
  let status := if s.options.watchesPipes then
      ((statuses.reverse.find? (· != 0)).getD 0) else last
  set { s with status := status, statuses := statuses }

/-- A command is run in the background. -/
def performInBackground (perform : Performer) (body : Script) : Sh Unit := do
  let s ← get
  let (ending, finish, number, world) := s.world.runAhead fun w =>
    let (void, w) := w.openStream .void
    let inner : State := { s with
      world := w, ownNumber := w.lastNumber, jobs := [], isWatched := false, depth := s.depth + 1,
      traps := s.traps.filter fun (_, text) => text = "",
      descriptors := s.descriptors.connect 0 void }
    let (_, inner) := (do perform body; finish perform : Sh Unit).run inner
    (inner.ending, inner.world)
  set { s with
    world := world, jobs := ⟨number, finish, State.statusOf ending⟩ :: s.jobs,
    lastJob := some number,
    status := 0 }

/-! ## Loops -/

/-- A round of a loop has ended: whether there may be another one. -/
def goesOn : Sh Bool := do
  let s ← get
  match s.flow with
  | .running => return true
  | .breaking n =>
    set { s with flow := if n ≤ 1 then .running else .breaking (n - 1) }
    return false
  | .continuing n =>
    set { s with flow := if n ≤ 1 then .running else .continuing (n - 1) }
    return n ≤ 1
  | _ => return false

/-- How often a loop runs; after that nobody is there any more to read what it writes. -/
def loopLimit : Nat := 200000

/-- Rounds as long as a condition says so; the status is that of the last round. -/
def rounds (condition : Sh Bool) (body : Sh Unit) : Nat → UInt8 → Sh Unit
  | 0, _ => modify ({ · with flow := .killed 13 })
  | n + 1, last => do
    let holds ← condition
    if !(← goesOn) then
      if ← isRunning then setStatus last
    else if !holds then setStatus last
    else
      body
      let status := (← get).status
      if ← goesOn then rounds condition body n status

/-- Something is done inside of one loop more. -/
def inLoop (body : Sh Unit) : Sh Unit := do
  modify fun s => { s with loops := s.loops + 1 }
  body
  modify fun s => { s with loops := s.loops - 1 }

/-- One of some texts is chosen by the number that is read; false at the end of the input. -/
def chooseAmong (name : String) (texts : List String) : Sh Bool := do
  let lines := texts.zipIdx.map fun (text, i) => toString (i + 1) ++ ") " ++ text
  let _ ← write 2 (Octets.unlines lines ++ "#? ")
  readVariables ["-r", "REPLY"]
  if (← get).status != 0 then
    setStatus 1
    return false
  let reply := ((← get).value? "REPLY").getD ""
  let choice := ((Tool.decimal? reply).bind fun n => if n = 0 then none else texts[n - 1]?).getD ""
  assign name choice

/-! ## Conditions of the extended shell -/

/-- The text of an expression in which what was quoted stands for itself. -/
def regexText (cells : List Cell) : String :=
  String.join (cells.map fun (c, q) =>
    if q && !c.isAlphanum && c != '_' && c != ' ' && c.toNat < 128 then "\\" ++ c.toString
      else c.toString)

/-- Whether a condition holds; none after a fault. -/
def holds (h : Hands) : Condition → Sh (Option Bool)
  | .unary op w => do
    let text ← wholeText h.runner w
    if !(← isRunning) then return none
    let s ← get
    if op = "-o" then
      return some (match optionLetter? true text with
        | some 'P' => s.options.watchesPipes
        | some c => s.letters.toList.contains c
        | none => false)
    if op = "-v" then
      let base := String.ofList (text.toList.takeWhile (· != '['))
      let key := String.ofList ((text.toList.drop (base.length + 1)).dropLast)
      return some (if base = text then (s.value? text).isSome || !(s.elements text).isEmpty
        else ((s.elements base).lookup key).isSome)
    let surroundings : Surroundings := ⟨s.world.files, s.cwd, [], s.world.clock, s.mask⟩
    return some ((Tool.Judge.mk surroundings (fun v => (s.value? v).isSome) true).unary
      (if op = "-a" then "-e" else op) text)
  | .binary op left right => do
    let a ← wholeText h.runner left
    if !(← isRunning) then return none
    if op = "=" ∨ op = "==" ∨ op = "!=" then
      let pattern ← patternOf h.runner right
      if !(← isRunning) then return none
      return some (Glob.fits true ((← get).isOn "nocasematch") pattern a != (op = "!="))
    if op = "=~" then
      let ignoresCase := (← get).isOn "nocasematch"
      let pattern := regexText (← patternOf h.runner right)
      match Regex.ofText ⟨true, ignoresCase, false, false, false⟩ pattern with
      | .error _ =>
        setStatus 2
        return none
      | .ok r =>
        let t := a.toList.toArray
        match r.find? t 0 with
        | none => return some false
        | some f =>
          let groups := (List.range (r.groupCount + 1)).map fun (i : Nat) =>
            ((i : Int), f.group t i)
          let _ ← assignValue "BASH_REMATCH" (.list groups)
          return some true
    let b ← wholeText h.runner right
    if !(← isRunning) then return none
    if ["-eq", "-ne", "-lt", "-le", "-gt", "-ge"].contains op then
      match ← evaluateText a with
      | none => return none
      | some x =>
        match ← evaluateText b with
        | none => return none
        | some y =>
          return some (match op with
            | "-eq" => x == y
            | "-ne" => x != y
            | "-lt" => decide (x < y)
            | "-le" => decide (x ≤ y)
            | "-gt" => decide (y < x)
            | _ => decide (y ≤ x))
    let s ← get
    let surroundings : Surroundings := ⟨s.world.files, s.cwd, [], s.world.clock, s.mask⟩
    match (Tool.Judge.mk surroundings (fun _ => false) true).binary op a b with
    | .ok r => return some r
    | .error _ => return some false
  | .negated c => do return (← holds h c).map (!·)
  | .both a b => do
    match ← holds h a with
    | some true => holds h b
    | r => return r
  | .either a b => do
    match ← holds h a with
    | some false => holds h b
    | r => return r

/-! ## Scripts -/

/-- The case that a text matches, and all after it that are run or tried with it. -/
def casesFrom (h : Hands) (text : String) :
    List (List Word × Script × CaseEnd) → Sh (List (List Word × Script × CaseEnd))
  | [] => return []
  | (patterns, body, close) :: rest => do
    for p in patterns do
      let pattern ← patternOf h.runner p
      if !(← isRunning) then return []
      let s ← get
      if Glob.fits (s.isOn "extglob") (s.isOn "nocasematch") pattern text then
        return (patterns, body, close) :: rest
    casesFrom h text rest

/-- A script is run. The first argument bounds how deep it goes; the second one tells whether the
shell ends right after it. -/
def eval (o : Outside) : Nat → Bool → Script → Sh Unit
  | 0, _, _ => modify ({ · with flow := .killed 11 })
  | n + 1, isFinal, script => do
    if !(← isRunning) then return ()
    let perform : Performer := eval o n false
    let h : Hands := ⟨o, perform⟩
    if (← get).options.runsNothing then return ()
    match script with
    | .nothing => return ()
    | .simple line assignments words redirects =>
      performSimple h isFinal line assignments words redirects
      receiveAll perform
      checkFailure perform
    | .pipeline stages =>
      performPipeline perform stages
      receiveAll perform
      checkFailure perform
    | .negated body =>
      watched (perform body)
      if ← isRunning then modify fun s => { s with status := if s.status == 0 then 1 else 0 }
    | .both first second =>
      watched (perform first)
      if (← isRunning) && (← get).status == 0 then eval o n isFinal second
    | .either first second =>
      watched (perform first)
      if (← isRunning) && (← get).status != 0 then eval o n isFinal second
    | .sequence first second =>
      perform first
      if ← isRunning then eval o n isFinal second
    | .background body => performInBackground perform body
    | .subshell body =>
      let ending ← apart perform (perform body)
      takeEnding isFinal ending (← get).world
      receiveAll perform
      checkFailure perform
    | .choice condition yes no =>
      watched (perform condition)
      if ← isRunning then
        if (← get).status == 0 then eval o n isFinal yes
        else
          match no with
          | .nothing => setStatus 0
          | no => eval o n isFinal no
    | .loop isUntil condition body =>
      inLoop (rounds (do
        watched (perform condition)
        return ((← get).status == 0) != isUntil) (perform body) loopLimit 0)
    | .menu name words body =>
      let texts ← match words with
        | some words => allFields h.runner words
        | none => pure (← get).parameters
      if ← isRunning then
        inLoop (rounds (chooseAmong name texts) (perform body) loopLimit 0)
    | .each name words body =>
      let texts ← match words with
        | some words => allFields h.runner words
        | none => pure (← get).parameters
      if ← isRunning then
        if !Reading.isName name then
          complain ("\x60" ++ name ++ "': not a valid identifier")
          setStatus 1
        else
          if texts.isEmpty then setStatus 0
          inLoop (overTexts name texts (perform body))
    | .counting start condition step body =>
      let value (w : Word) (default : Int) : Sh (Option Int) := do
        let text ← wholeText h.runner w
        if text.all (· = ' ') then return some default else evaluateText text
      if (← value start 0).isSome then
        inLoop (rounds (return (← value condition 1).any (· ≠ 0)) (do
          perform body
          -- the step is taken also where the body was left for the next round
          let s ← get
          match s.flow with
          | .running => let _ ← value step 0; if ← isRunning then setStatus s.status
          | .continuing 1 =>
            set { s with flow := .running }
            let _ ← value step 0
            if ← isRunning then setStatus s.status
          | _ => return ()) loopLimit 0)
    | .matching word cases =>
      let text ← wholeText h.runner word
      if ← isRunning then
        match ← casesFrom h text cases with
        | [] => if ← isRunning then setStatus 0
        | found => performCases o n isFinal h text found
    | .redirected body redirects => withRedirects h redirects (perform body)
    | .define name body =>
      modify fun s => { s with
        functions := (name, body) :: s.functions.filter (·.1 != name),
        status := 0 }
    | .judged c =>
      match ← holds h c with
      | some b => setStatus (if b then 0 else 1)
      | none => modify fun s => match s.flow with
          | .discarding => { s with flow := .running, status := 1 }
          | .running => { s with status := if s.status == 2 then 2 else 1 }
          | _ => s
      checkFailure perform
    | .reckoned expression =>
      let text ← wholeText h.runner expression
      if ← isRunning then
        match ← evaluateText text with
        | some i => setStatus (if i = 0 then 1 else 0)
        | none => modify ({ · with flow := .running, status := 1 })
        checkFailure perform
where
  /-- A body is run for each of some texts. -/
  overTexts (name : String) : List String → Sh Unit → Sh Unit
    | [], _ => return ()
    | text :: rest, body => do
      if ← assign name text then
        body
        if ← goesOn then overTexts name rest body
  /-- The first case is run, and the next ones as its end says. -/
  performCases (o : Outside) (n : Nat) (isFinal : Bool) (h : Hands) (text : String) :
      List (List Word × Script × CaseEnd) → Sh Unit
    | [] => return ()
    | (_, .nothing, .stop) :: _ => setStatus 0
    | (_, body, .stop) :: _ => eval o n isFinal body
    | (_, body, .intoNext) :: rest => do
      eval o n false body
      if ← isRunning then performCases o n isFinal h text rest
    | (_, body, .tryNext) :: rest => do
      eval o n false body
      if ← isRunning then
        match ← casesFrom h text rest with
        | [] => return ()
        | (_, body, _) :: _ => eval o n isFinal body

/-- How deep scripts go. -/
def depthLimit : Nat := 20000

end CiHarness.Shell
