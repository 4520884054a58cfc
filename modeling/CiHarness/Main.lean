import CiHarness.CommandLine.OnMachine

/-!
# The program

The program asks the host it is called on about the harness directory and about the programs that
its steps name, takes what it learns as a machine, and answers as the library says. A program that
begins like a script can be run, and so can the tools of every system; of any other program only the
name is known.
-/
namespace CiHarness.Console

/-- What lies at a path, or why nothing can be seen there. -/
def look (path : String) : IO (Except SystemError Entry) := do
  try
    let first ← (← IO.FS.Handle.mk path .read).read 2
    if first.data = "#!".toUTF8.data then return .ok ⟨.file (← IO.FS.readBinFile path), 0o755, 0⟩
    return .ok (.ofText "" false)
  catch
    | .inappropriateType _ 21 _ => return .ok .directory
    | .noFileOrDirectory _ code _ => return refused code
    | .inappropriateType _ code _ => return refused code
    | .permissionDenied _ code _ => return refused code
    | .invalidArgument _ code _ => return refused code
    | .otherError code _ => return refused code
    | _ => return .ok (.ofText "" false)
where
  refused (code : UInt32) : Except SystemError Entry :=
    .error ((SystemError.ofCode? code.toNat).getD .noSuchEntry)

/-- The canonical path of a place, or why there is none. -/
def canonicalize (path : String) : IO (Except LookupError Path) := do
  if FileTree.hasNul path then return .error .nulByte
  match ← look path with
  | .error e => return .error (.system e)
  | .ok _ => return .ok ⟨toString (← IO.FS.realPath path)⟩

/-- Whether a path leads to a regular file. -/
def isFile (path : String) : IO Bool := do
  match ← look path with
  | .ok entry => return entry.isRegular
  | .error _ => return false

/-- The place of an absolute path without links and without steps upwards. -/
def placeOf (path : String) : Place := (Path.mk path).components.map String.ofList

/-- What lies at some paths is added to the files that are known. -/
def addEntries (files : FileTree) (paths : List String) : IO FileTree :=
  paths.foldlM (fun files path => do
    match ← look path with
    | .ok entry => return files.put (placeOf path) entry
    | .error _ => return files) files

/-- The programs that the steps of an invocation may name, by all paths where they may lie. -/
def programPaths (searchPath : String) (invocation : CommandLine.Invocation) (setup : Setup) :
    List String :=
  let names := invocation.runtime.getD Setup.defaultRuntime ::
    Step.all.filterMap fun step => (step.command setup).program?
  names.flatMap fun name =>
    (setup.layout.projectRoot.join name).text ::
      (Text.split ':' searchPath).map fun dir => dir ++ "/" ++ name

/-- The user and group of the process, as its status tells them. -/
def identity? : IO (Option Identity) := do
  let status ← try IO.FS.readFile "/proc/self/status" catch _ => pure ""
  let number? (field : String) : Option UInt32 := do
    let line ← (Text.split '\n' status).find? (·.startsWith field)
    let digits := ((line.toList.drop field.length).dropWhile Text.isBlank).takeWhile Char.isDigit
    (String.ofList digits).toNat?.map UInt32.ofNat
  return do return ⟨← number? "Uid:", ← number? "Gid:"⟩

/-- The time that the host shows, to the second: when it was started, and how long ago that was. -/
def now : IO Timestamp := do
  let started ← try IO.FS.readFile "/proc/stat" catch _ => pure ""
  let running ← try IO.FS.readFile "/proc/uptime" catch _ => pure ""
  let started := (Text.split '\n' started).find? (·.startsWith "btime ")
  let number (s : String) : Nat :=
    (String.ofList ((s.toList.dropWhile (!·.isDigit)).takeWhile Char.isDigit)).toNat?.getD 0
  return Timestamp.ofClock (number (started.getD "") + number running) 0

/-- A new identifier, and the time. -/
def stamp : IO Stamp := do
  let mut digits : List Nat := []
  for _ in List.range 32 do
    digits := (← IO.rand 0 15) :: digits
  let drawn := digits
  return ⟨RunId.ofChance fun i => ⟨drawn.getD i 0 % 16, by omega⟩, ← now⟩

/-- The environment of the process. -/
def environment : IO (List (String × String)) := do
  let text ← try IO.FS.readFile "/proc/self/environ" catch _ => pure ""
  return (Text.split '\x00' text).filterMap (Text.splitOnce '=')

/-- The host as a machine and as a workplace, as far as an invocation looks at it. -/
def survey (invocation : CommandLine.Invocation) (environment : List (String × String))
    (identity : Identity) (stamp : Stamp) : IO (Machine × CommandLine.Workplace Machine) := do
  let searchPath := (environment.lookup "PATH").getD Program.standardPath
  let canonical ← canonicalize invocation.ciDir.text
  let hasManifest ←
    match canonical.toOption.bind fun ciDir => (Layout.ofCiDir ciDir).toOption with
    | some layout => isFile layout.manifest.text
    | none => pure false
  let view : FileView := ⟨fun _ => canonical, fun _ => hasManifest, fun _ => false⟩
  let workplace : CommandLine.Workplace Machine := ⟨view, identity, Machine.launcher, stamp⟩
  let cwd := toString (← IO.currentDir)
  let files ← match workplace.setup invocation with
    | .ok setup =>
      addEntries FileTree.standard (setup.layout.projectRoot.text :: setup.layout.ciDir.text ::
        programPaths searchPath invocation setup)
    | .error _ => pure FileTree.standard
  return (⟨files, placeOf cwd, environment, identity, (Moment.ofTimestamp stamp.startedAt).clock⟩,
    workplace)

/-- A log line for a reader. -/
def plainLine (e : LogEntry) : String :=
  e.level.name ++ " " ++ e.message ++
    String.join (e.fields.map fun (name, value) => " " ++ name ++ "=" ++ value.compact)

/-- A log line as JSON, with its time. -/
def jsonLine (time : Timestamp) (e : LogEntry) : String :=
  match e.toJson with
  | .object members => (Json.object (("timestamp", .text time.toText) :: members)).compact
  | v => v.compact

/-- A response is shown, and the exit code given. -/
def display {σ : Type} (time : Timestamp) (response : CommandLine.Response σ) : IO UInt32 := do
  let line := if response.logsJson then jsonLine time else plainLine
  (← IO.getStdout).write ⟨response.trace.stdout.toArray⟩
  (← IO.getStderr).write ⟨(response.stderr line).toArray⟩
  if response.conclusion = .misused then
    IO.eprintln "error: the arguments are not understood; try '--help'"
  return response.conclusion.exitCode.toUInt32

end CiHarness.Console

open CiHarness in
def main (args : List String) : IO UInt32 := do
  let environment ← Console.environment
  let env := CommandLine.Environment.ofLookup (environment.lookup ·)
  let stamp ← Console.stamp
  let some identity ← Console.identity?
    | IO.eprintln (Failure.identityUnavailable "the process has no status").message
      return 1
  match CommandLine.Invocation.ofArguments env args with
  | .error stop => Console.display stamp.startedAt (stop.response env ())
  | .ok invocation =>
    let (machine, workplace) ← Console.survey invocation environment identity stamp
    Console.display stamp.startedAt (workplace.answer env invocation machine)
