import CiHarness.Host.Shell.Evaluation

/-!
# Starting shells

A shell reads its arguments, which tell where its script comes from: from an argument, from a file
or from its standard input. Then it takes over the environment as its variables, adds those that
every shell has, and runs the script to its end. A login shell runs the profiles of the system and
of its user before.
-/
namespace CiHarness.Shell

/-- Where a shell takes its script from. -/
inductive Origin where
  | argument (script : String)
  | file (path : String)
  | input

/-- What the arguments of a shell say. -/
structure Beginning where
  origin : Origin
  name : String
  parameters : List String
  options : Options
  isLogin : Bool

/-- Why a shell does not begin: what is said, and the status. -/
structure Refusal where
  words : String
  status : UInt8

namespace Beginning

/-- The options in front of the operands of a shell. -/
structure Letters where
  options : Options
  wantsArgument : Bool
  wantsInput : Bool
  isLogin : Bool

/-- One argument of letters is read; the result tells which options with a name of their own are
meant by the words after it. -/
def Letters.add (extended isOn : Bool) (l : Letters) :
    List Char → Except Refusal (Letters × List Char)
  | [] => .ok (l, [])
  | 'c' :: cs => { l with wantsArgument := true }.add extended isOn cs
  | 's' :: cs => { l with wantsInput := true }.add extended isOn cs
  | 'l' :: cs => { l with isLogin := true }.add extended isOn cs
  | c :: cs =>
    if c = 'o' || (extended && c = 'O') then
      (l.add extended isOn cs).map fun (l, named) => (l, c :: named)
    else
      match l.options.with? extended isOn c with
      | some options =>
        if c = 'P' then .error (unknown c)
        else { l with options := options }.add extended isOn cs
      | none => .error (unknown c)
where
  unknown (c : Char) : Refusal :=
    let word := (if isOn then "-" else "+") ++ c.toString
    ⟨if extended then word ++ ": invalid option" else "Illegal option " ++ word, 2⟩

/-- An option is set by its name. -/
def Letters.name (extended isOn : Bool) (l : Letters) (letter : Char) (name : String) :
    Except Refusal Letters :=
  if letter = 'O' then
    .ok { l with options := { l.options with further := name :: l.options.further } }
  else
    match (optionLetter? extended name).bind (l.options.with? extended isOn ·) with
    | some options => .ok { l with options := options }
    | none =>
      .error ⟨if extended then name ++ ": invalid option name" else "Illegal option -o " ++ name, 2⟩

/-- Names for the letters that want one are taken from the words. -/
def Letters.names (extended isOn : Bool) (l : Letters) :
    List Char → List String → Except Refusal (Letters × List String)
  | c :: cs, name :: rest => do (← l.name extended isOn c name).names extended isOn cs rest
  | _, rest => .ok (l, rest)

/-- The long options of the extended shell that change nothing here; some of them have a value. -/
def longNames : List (String × Bool) :=
  [("--debug", false), ("--debugger", false), ("--noediting", false), ("--noprofile", false),
    ("--norc", false), ("--posix", false), ("--pretty-print", false), ("--restricted", false),
    ("--verbose", false), ("--version", false), ("--help", false), ("--init-file", true),
    ("--rcfile", true)]

/-- The options of a shell and its operands. The first argument bounds the number of words. -/
def letters (extended : Bool) : Nat → Letters → List String → Except Refusal (Letters × List String)
  | 0, l, words => .ok (l, words)
  | n + 1, l, words =>
    match words with
    | [] => .ok (l, [])
    | "-" :: rest => .ok (l, rest)
    | "--" :: rest => .ok (l, rest)
    | word :: rest =>
      if extended && word = "--login" then letters extended n { l with isLogin := true } rest
      else if extended && word.startsWith "--" then
        match longNames.lookup word with
        | some hasValue => letters extended n l (if hasValue then rest.tail else rest)
        | none => .error ⟨word ++ ": invalid option", 2⟩
      else if word.startsWith "-" || word.startsWith "+" then do
        let isOn := word.startsWith "-"
        let (l, named) ← l.add extended isOn word.toList.tail
        let (l, rest) ← l.names extended isOn named rest
        letters extended n l rest
      else .ok (l, words)

/-- What the arguments of a shell say that was called by some name. -/
def ofArguments (extended : Bool) (name : String) (args : List String) :
    Except Refusal Beginning := do
  let options : Options := { Options.initial with
    further := if extended then (furtherOptions.filter (·.2)).map (·.1) else [] }
  let (l, operands) ← letters extended (args.length + 1) ⟨options, false, false, false⟩ args
  let isLogin := l.isLogin || name.startsWith "-"
  if l.wantsArgument then
    match operands with
    | [] =>
      .error ⟨if extended then "-c: option requires an argument" else "-c requires an argument", 2⟩
    | script :: parameters =>
      return ⟨.argument script, parameters.headD name, parameters.tail, l.options, isLogin⟩
  else
    match operands with
    | [] => return ⟨.input, name, [], l.options, isLogin⟩
    | path :: parameters =>
      if l.wantsInput then return ⟨.input, name, operands, l.options, isLogin⟩
      else return ⟨.file path, path, parameters, l.options, isLogin⟩

end Beginning

/-! ## The first state -/

/-- The search path of a shell that was given none. -/
def standardPath : String := "/usr/local/sbin:/usr/local/bin:/usr/sbin:/usr/bin:/sbin:/bin"

/-- The way to the working directory that the environment tells, if it leads there. -/
def wayOf (s : Setting) (files : FileTree) : String :=
  match s.value? "PWD" with
  | some way =>
    if way.startsWith "/" && (files.find s.cwd ⟨Octets.toText way⟩).toOption = some s.cwd then way
    else Octets.ofText s.cwd.toPath.text
  | none => Octets.ofText s.cwd.toPath.text

/-- The variables that a shell has besides those of its environment; the last ones are exported. -/
def ownVariables (extended : Bool) (name : String) : List (String × String) :=
  if extended then
    [("BASH", "/usr/bin/bash"), ("BASH_VERSION", "5.2.15(1)-release"), ("EUID", "0"),
      ("HOSTNAME", "localhost"),
      ("HOSTTYPE", "x86_64"), ("IFS", " \t\n"), ("MACHTYPE", "x86_64-pc-linux-gnu"),
      ("OPTERR", "1"),
      ("OPTIND", "1"), ("OSTYPE", "linux-gnu"), ("PS4", "+ "), ("SHELL", "/bin/bash"),
      ("TERM", "dumb"),
      ("UID", "0"), ("_", name)]
  else [("IFS", " \t\n"), ("OPTIND", "1"), ("PS1", "# "), ("PS2", "> "), ("PS4", "+ ")]

/-- Variables that a shell sets whatever its environment says. -/
def firmNames : List String := ["IFS", "OPTIND", "PS4", "BASH_VERSION", "EUID", "UID", "_"]

/-- A number that is one more than another one in an environment. -/
def nextLevel (level : Option String) : String :=
  toString (((level.bind Tool.decimal?).getD 0) + 1)

/-- The state in which a shell begins, as the process with a number. -/
def State.begin (extended : Bool) (s : Setting) (world : World) (number : Nat)
    (b : Beginning) : State :=
  let way := wayOf s world.files
  let exported (value : String) : Binding := ⟨some (.text value), true, false, false, false⟩
  let isArgument := match b.origin with
    | .argument _ => true
    | _ => false
  let own (value : String) : Binding := ⟨some (.text value), false, false, false, false⟩
  let start : State :=
    ⟨world, s.cwd, way, s.descriptors, b.name, b.parameters, [], [], [], [], b.options, 0, [],
      .running, [], [],
      none, number, number, s.starter, none, 0, s.mask, [], 0, isArgument, [], [], false, extended,
        1, 0, []⟩
  let start := (ownVariables extended b.name).foldl (fun t (n, v) => t.setBinding n (own v)) start
  let start := if (s.value? "PATH").isNone then start.setBinding "PATH" (own standardPath)
    else start
  let start := s.environment.foldl (fun t (n, v) =>
    if !Reading.isName n || firmNames.contains n then t else t.setBinding n (exported v)) start
  let start := start.setBinding "PWD" (exported way)
  if extended then start.setBinding "SHLVL" (exported (nextLevel (s.value? "SHLVL"))) else start

/-! ## Running -/

/-- The text of a file, if there is one. -/
def fileText? (s : State) (path : String) : Option String :=
  match s.world.files.findEntry s.cwd ⟨Octets.toText path⟩ with
  | .ok (here, entry) =>
    if entry.isRegular then some (Octets.ofBytes (s.world.fileBytes here))
    else none
  | .error _ => none

/-- The profiles of the system and of the user are run. -/
def performProfiles (perform : Performer) : Sh Unit := do
  let profile (paths : List String) : Sh Unit := do
    match paths.findSome? (fileText? (← get)) with
    | some text => performText perform "" text
    | none => return ()
  profile ["/etc/profile"]
  if let some home := (← get).value? "HOME" then
    profile ((if (← get).extended then [home ++ "/.bash_profile", home ++ "/.bash_login"]
      else []) ++ [home ++ "/.profile"])

/-- A script is run in a fresh shell to its end. Only the last command of a script that was given as
an argument may take the place of the shell. -/
def run (o : Outside) (start : State) (isLogin mayBeLast : Bool) (text : String) : Ending × World :=
  let perform : Performer := eval o depthLimit false
  let all : Sh Unit := do
    if isLogin then performProfiles perform
    modify ({ · with line := 1 })
    performLines (fun isLast script => eval o depthLimit (isLast && mayBeLast) script)
      (fun m => do
        modify ({ · with line := m.line })
        complain m.words
        leave 2) (text.length + 1) (Source.ofText text 1 start.extended)
    finish perform
    -- what reads the output of the whole script reads it now
    let s ← get
    set { s with flow := .running }
    performChannels perform
    modify ({ · with flow := s.flow, status := s.status })
  let (_, s) := all.run start
  (s.ending, s.world)

/-- The text of a script file, or why it cannot be run. A name without a slash is also looked for in
the search path of the extended shell. -/
def scriptText (s : State) (path : String) : Except Refusal String :=
  match s.world.files.findEntry s.cwd ⟨Octets.toText path⟩ with
  | .ok (here, entry) =>
    let text := Octets.ofBytes (s.world.fileBytes here)
    if s.extended && entry.isDirectory then .error ⟨path ++ ": Is a directory", 126⟩
    else if s.extended && (text.toList.takeWhile (· != '\n')).contains '\x00' then
      .error ⟨path ++ ": cannot execute binary file", 126⟩
    else .ok text
  | .error e =>
    if s.extended then
      let places := if path.toList.contains '/' then []
        else (Text.split ':' ((s.value? "PATH").getD "")).map (· ++ "/" ++ path)
      match places.findSome? (fileText? s) with
      | some text => .ok text
      | none => .error ⟨path ++ ": " ++ e.words, 127⟩
    else .error ⟨"cannot open " ++ path ++ ": No such file", 2⟩

/-- A shell that was started as a program. -/
def start (extended : Bool) (o : Outside) (s : Setting) (name : String) (args : List String)
    (world : World) :
    Ending × World :=
  let (number, world) := world.newNumber
  let refused (r : Refusal) : Ending × World :=
    (.exited r.status, (s.descriptors.write world 2
      (name ++ (if extended then ": " else ": 0: ") ++ r.words ++ "\n")).1)
  match Beginning.ofArguments extended name args with
  | .error r => refused r
  | .ok b =>
    let first := State.begin extended s world number b
    match b.origin with
    | .argument script => run o first b.isLogin true script
    | .file path =>
      match scriptText first path with
      | .error r => refused r
      | .ok text => run o first b.isLogin false text
    | .input =>
      match s.stream? 0 with
      | none => run o first b.isLogin false ""
      | some stream =>
        let world := world.settle stream
        let text := ((world.supply? stream).map Supply.text).getD ""
        run o { first with world := world.drain stream } b.isLogin false text

end CiHarness.Shell
