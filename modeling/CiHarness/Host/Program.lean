import CiHarness.Host.Shell.Starting
import CiHarness.Host.Wrapper

/-!
# Programs

A program is found by its path, or by its name in the directories of a search path. What lies there
is a program of the system, or a file whose first line names the program that interprets it. A
program runs to its end as a process of the world.
-/
namespace CiHarness

namespace FileTree

/-- What lies at a path, if it can be run: a program of the system or an executable file. -/
def programAt (t : FileTree) (cwd : Place) (path : String) : Except SystemError Content :=
  match t.findEntry cwd ⟨Octets.toText path⟩ with
  | .error e => .error e
  | .ok (_, entry) =>
    if entry.isRegular && entry.isExecutable then .ok entry.content else .error .accessDenied

/-- The directories of a search path are tried in turn. What is found but may not be run is reported
if nothing better is found after it. -/
def searchIn (t : FileTree) (cwd : Place) (name : String) (denied : Bool) :
    List String → Except SystemError String
  | [] => .error (if denied then .accessDenied else .noSuchEntry)
  | dir :: rest =>
    let path := if dir = "" then name else dir ++ "/" ++ name
    match t.programAt cwd path with
    | .ok _ => .ok path
    | .error .accessDenied => searchIn t cwd name true rest
    | .error .noSuchEntry => searchIn t cwd name denied rest
    | .error .notADirectory => searchIn t cwd name denied rest
    | .error e => .error e

/-- The path of a program. A name with a slash is a path; any other name is searched for. -/
def pathOf (t : FileTree) (cwd : Place) (searchPath name : String) : Except SystemError String :=
  if name = "" then .error .noSuchEntry
  else if name.toList.contains '/' then .ok name
  else if nameLimit < name.length then .error .nameTooLong
  else t.searchIn cwd name false (Text.split ':' searchPath)

end FileTree

/-- The interpreter that the first line of a script names, and its one argument. -/
structure Interpreter where
  path : String
  argument : Option String
  deriving DecidableEq

namespace Interpreter

/-- How many bytes of a script are looked at. -/
def window : Nat := 256

def isBlank (c : Char) : Bool := c = ' ' || c = '\t'

/-- A list without the blanks at its end. -/
def trimmed (cs : List Char) : List Char := (cs.reverse.dropWhile isBlank).reverse

/-- The interpreter named by what follows the mark, up to the end of the line. -/
def ofLine (cs : List Char) : Interpreter :=
  let cs := cs.dropWhile isBlank
  let path := cs.takeWhile (!isBlank ·)
  let rest := cs.drop path.length
  ⟨String.ofList path,
    if rest.isEmpty then none else some (String.ofList (rest.dropWhile isBlank))⟩

/-- The interpreter of a script; none if there is no mark, if nothing follows it on its line, or if
its path is not all to be seen. A text ends at a zero. -/
def ofScript? (script : String) : Option Interpreter :=
  match script.toList.take window with
  | '#' :: '!' :: cs =>
    let shown := cs.takeWhile (· != '\x00')
    let line := trimmed (shown.takeWhile (· != '\n'))
    if shown.contains '\n' then
      if line.isEmpty then none else some (ofLine line)
    else if shown.length < window - 2 then some (ofLine shown)
    else
      let words := shown.dropWhile isBlank
      if words.any isBlank then some (ofLine (trimmed (shown.take (window - 3)))) else none
  | _ => none

end Interpreter

namespace Program

/-- The longest argument of a program, with the byte that ends it. -/
def argumentLimit : Nat := 131072

/-- How much all arguments and the environment may take, with eight bytes for each text. -/
def totalLimit : Nat := 2097152

/-- Whether arguments and environment are too long for a program to be started. -/
def isTooLong (argv : List String) (environment : List (String × String)) : Bool :=
  argv.any (fun arg => argumentLimit ≤ arg.length) ||
    totalLimit < environment.foldl (fun n (name, value) => n + name.length + value.length + 10)
      (argv.foldl (fun n arg => n + arg.length + 9) 0)

/-- What a program writes reaches its descriptors; a descriptor that takes nothing is complained
about and makes the program fail. -/
def deliver (s : Setting) (name : String) (e : Effect) (w : World) : Ending × World :=
  let w := match e.files with
    | some files => { w with files := files }
    | none => w
  let (w, isWritten) := e.written.foldl (fun (w, isWritten) (descriptor, text) =>
    let (w, isTaken) := s.descriptors.write w descriptor text
    (w, isWritten && (isTaken || descriptor = 2))) (w, true)
  if isWritten then (.exited e.status, w)
  else
    let words := if (s.stream? 1).isSome then FileFault.noSpace.words
      else FileFault.badDescriptor.words
    (.exited (max e.status 1),
      (s.descriptors.write w 2 (name ++ ": write error: " ++ words ++ "\n")).1)

/-- Readers that want only a part of their input take whole blocks of it, unless it is a file. -/
def blockSize : Nat := 8192

/-- What is left of an input of which only a part was wanted. -/
def leftOf (input rest : Supply) : Supply :=
  if input.isFile then rest
  else
    let taken := rest.position - input.position
    let blocks := (taken + blockSize - 1) / blockSize * blockSize
    { rest with
      position :=
        input.position + (if input.isEndless then blocks else min blocks input.remaining) }

/-- The time that something without an end takes, in microseconds. -/
def endless : Nat := 86400000000

/-- A program of the system runs to its end. -/
def perform (u : Utility) (s : Setting) (name : String) (args : List String)
    (w : World) : Ending × World :=
  let behaviour := u ⟨w.files, s.cwd, s.environment, w.clock, s.mask⟩ name args
  match behaviour with
  | .done e => deliver s name e w
  | .sleeping duration => (.exited 0, w.pass duration)
  | .repeating line =>
    match s.stream? 1 with
    | some stream =>
      if w.isSink stream then (.killed 13, w.repeatForever stream (Octets.toBytes line))
      else
        let (ending, w) := deliver s name (.ofText 0 line) w
        if ending = .exited 0 then (.killed 9, w.pass endless) else (ending, w)
    | none => deliver s name (.ofText 0 line) w
  | .reading f =>
    match input? s w with
    | .error words => deliver s name (.ofComplaint 1 (name ++ ": -: " ++ words)) w
    | .ok (stream, input, w) => deliver s name (f input) (w.drain stream)
  | .peeking f =>
    match input? s w with
    | .error words => deliver s name (.ofComplaint 1 (name ++ ": -: " ++ words)) w
    | .ok (stream, input, w) =>
      let (e, rest) := f input
      deliver s name e (w.setSupply stream (leftOf input rest))
where
  /-- The stream of the standard input with what can be read from it, once all has been written to
  it. -/
  input? (s : Setting) (w : World) : Except String (Nat × Supply × World) :=
    match s.stream? 0 with
    | none => .error FileFault.badDescriptor.words
    | some stream =>
      let w := w.settle stream
      match w.supply? stream with
      | some input => .ok (stream, input, w)
      | none => .error (SystemError.isADirectory).words

/-- How often an interpreter may itself be a script. -/
def interpreterLimit : Nat := 5

/-- The program of the system that is run in the end for a path, and its words, with the
interpreters of scripts in front. The first argument bounds how often an interpreter may be a
script. -/
def resolve (t : FileTree) (cwd : Place) : Nat → String → List String →
    Except SystemError (String × List String)
  | n, path, argv =>
    match t.programAt cwd path with
    | .error e => .error e
    | .ok (.tool name) => .ok (name, argv)
    | .ok (.file bytes) =>
      match Interpreter.ofScript? (Octets.ofBytes (bytes.extract 0 Interpreter.window)), n with
      | none, _ => .error .execFormat
      | some _, 0 => .error .symlinkLoop
      | some i, n + 1 => resolve t cwd n i.path (i.path :: i.argument.toList ++ path :: argv.tail)
    | .ok _ => .error .accessDenied

/-- Where programs are looked for without a search path. -/
def standardPath : String := "/bin:/usr/bin"

/-- Something that starts programs by their paths. -/
abbrev Launch := Setting → String → List String → World → Except SystemError (Ending × World)

/-- A program is looked for by its name and started; a file that names no interpreter is handed to
the plain shell. -/
def startNamed (launch : Launch) : Starter := fun s words w =>
  match words with
  | [] => .error .noSuchEntry
  | name :: args =>
    match w.files.pathOf s.cwd ((s.value? "PATH").getD standardPath) name with
    | .error e => .error e
    | .ok path =>
      match launch s path words w with
      | .error .execFormat => launch s "/bin/sh" ("/bin/sh" :: path :: args) w
      | result => result

/-- A program runs to its end. The first argument bounds how deep programs start programs. -/
def run : Nat → Launch
  | 0, _, _, _, _ => .error .symlinkLoop
  | n + 1, s, path, argv, w =>
    match w.files.programAt s.cwd path with
    | .error e => .error e
    | .ok _ =>
      if isTooLong argv s.environment then .error .argumentsTooLong
      else
        match resolve w.files s.cwd interpreterLimit path argv with
        | .error e => .error e
        | .ok (tool, argv) =>
          let name := argv.headD tool
          let args := argv.tail
          if tool = "dash" then .ok (Shell.start false ⟨run n⟩ s name args w)
          else if tool = "bash" then .ok (Shell.start true ⟨run n⟩ s name args w)
          else
            match Wrapper.ofName? tool, Tool.ofName? tool with
            | some wrapper, _ => .ok (wrapper (startNamed (run n)) s name args w)
            | none, some utility => .ok (perform utility s name args w)
            | none, none => .error .noSuchEntry

/-- How deep programs may start programs. -/
def depthLimit : Nat := 100

end Program

end CiHarness
