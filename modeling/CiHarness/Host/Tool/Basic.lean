import CiHarness.Host.World

/-!
# Programs of the system

The small programs that steps and scripts call read their arguments, files and standard input, and
write texts. What such a program does is told by a value: it is done at once, or wants its standard
input, or sleeps, or never stops writing. Most of them keep what they write until they end, so that
complaints come first.
-/
namespace CiHarness

/-- Where a program runs: the files it sees, its directory and environment, the time, and the
permissions that new files lack. -/
structure Surroundings where
  files : FileTree
  cwd : Place
  environment : List (String × String)
  clock : Nat
  mask : Nat

/-- What a program leaves: its status, the texts it wrote, each with its descriptor, and the files
if it changed them. -/
structure Effect where
  status : UInt8
  written : List (Nat × String)
  files : Option FileTree

namespace Effect

/-- A program that wrote a text and ended with a status. -/
def ofText (status : UInt8) (text : String) : Effect :=
  ⟨status, if text.isEmpty then [] else [(1, text)], none⟩

/-- A program that ended with a status and wrote nothing. -/
def ofStatus (status : UInt8) : Effect := ⟨status, [], none⟩

/-- A program that complained. -/
def ofComplaint (status : UInt8) (complaint : String) : Effect :=
  ⟨status, [(2, complaint ++ "\n")], none⟩

/-- A program that complained in some lines, and then wrote a text. -/
def ofBoth (status : UInt8) (complaints : List String) (text : String) : Effect :=
  ⟨status, (if complaints.isEmpty then [] else [(2, Octets.unlines complaints)]) ++
    (if text.isEmpty then [] else [(1, text)]), none⟩

end Effect

/-- What a program does. -/
inductive Behaviour where
  | done (e : Effect)
  /-- All of the standard input is wanted. -/
  | reading (f : Supply → Effect)
  /-- Some of the standard input is wanted; what is left of it can be read by others. -/
  | peeking (f : Supply → Effect × Supply)
  | sleeping (duration : Nat)
  /-- A line is written until nobody reads any more. -/
  | repeating (line : String)

namespace Surroundings

/-- The place and entry that a path of bytes leads to. -/
def find (s : Surroundings) (path : String) : Except SystemError (Place × Entry) :=
  s.files.findEntry s.cwd ⟨Octets.toText path⟩

/-- The same without following a link in the last place. -/
def findLink (s : Surroundings) (path : String) : Except SystemError (Place × Entry) :=
  s.files.locateEntry s.cwd ⟨Octets.toText path⟩

/-- The place of a path whose last name need not exist. -/
def locate (s : Surroundings) (path : String) : Except SystemError Place :=
  s.files.locate s.cwd ⟨Octets.toText path⟩

def isDirectory (s : Surroundings) (path : String) : Bool :=
  (s.find path).toOption.any (·.2.isDirectory)

/-- What can be read from a path. -/
def read (s : Surroundings) (path : String) : Except FileFault Supply :=
  match s.find path with
  | .error e => .error (.system e)
  | .ok (_, entry) =>
    match entry.content with
    | .file bytes => .ok { Supply.ofBytes bytes with isFile := true }
    | .directory => .error (.system .isADirectory)
    | .zeros => .ok .zeros
    | .full => .ok .zeros
    | _ => .ok (.ofBytes .empty)

/-- The permissions of something new, of which some are asked for. -/
def modeOf (s : Surroundings) (wanted : Nat) : Nat := wanted - (wanted &&& s.mask)

/-- A text is written to the place where a path lands. -/
def writeFile (s : Surroundings) (path : String) (bytes : ByteArray) :
    Except FileFault FileTree :=
  match s.files.landing s.cwd ⟨Octets.toText path⟩ with
  | .error e => .error (.system e)
  | .ok here =>
    match s.files.entry? here with
    | none => .ok (s.files.set here ⟨.file bytes, s.modeOf 0o666, s.clock⟩)
    | some entry =>
      match entry.content with
      | .directory => .error (.system .isADirectory)
      | .file _ => .ok (s.files.set here { entry with content := .file bytes, time := s.clock })
      | .tool _ => .ok (s.files.set here { entry with content := .file bytes, time := s.clock })
      | .full => if bytes.isEmpty then .ok s.files else .error .noSpace
      | _ => .ok s.files

end Surroundings

/-- A program: what it does where it runs, under its name and with its arguments. -/
abbrev Utility := Surroundings → String → List String → Behaviour

namespace Tool

/-! ## Options -/

/-- Options that were given, in order and each with its value, and what is left. -/
structure Options where
  given : List (Char × String)
  operands : List String

namespace Options

def has (o : Options) (c : Char) : Bool := o.given.any (·.1 = c)

/-- The value of an option; the last one counts. -/
def value? (o : Options) (c : Char) : Option String := (o.given.reverse.find? (·.1 = c)).map (·.2)

/-- Which of some options was given last. -/
def last? (o : Options) (cs : List Char) : Option Char :=
  (o.given.reverse.find? (cs.contains ·.1)).map (·.1)

end Options

/-- The options that a program knows: letters, of which some take a value, and long names, each for
a letter; and whether options may stand after operands. -/
structure Grammar where
  plain : List Char
  valued : List Char
  long : List (String × Char)
  mixes : Bool

/-- The options of a program by their letters; a colon stands after one that takes a value. -/
def Grammar.ofText (letters : String) (long : List (String × Char)) (mixes : Bool) : Grammar :=
  let rec sort : List Char → List Char × List Char
    | [] => ([], [])
    | c :: ':' :: rest => let (plain, valued) := sort rest; (plain, c :: valued)
    | c :: rest => let (plain, valued) := sort rest; (c :: plain, valued)
  let (plain, valued) := sort letters.toList
  ⟨plain, valued, long, mixes⟩

/-- The letter of a long name, or of the beginning of just one. -/
def Grammar.longLetter? (g : Grammar) (name : String) : Option Char :=
  match g.long.lookup name with
  | some c => some c
  | none =>
    match (g.long.filter fun (full, _) => full.startsWith name).map (·.2) with
    | [] => none
    | c :: rest => if rest.all (· = c) then some c else none

/-- What an option's letters give: flags up to one that takes a value, which is the rest or, if
nothing is left, missing. -/
def Grammar.letters (g : Grammar) :
    List Char → Except String (List (Char × String) × Option Char)
  | [] => .ok ([], none)
  | c :: rest =>
    if g.valued.contains c then
      if rest.isEmpty then .ok ([], some c) else .ok ([(c, String.ofList rest)], none)
    else if g.plain.contains c then
      (g.letters rest).map fun (given, missing) => ((c, "") :: given, missing)
    else .error ("invalid option -- '" ++ c.toString ++ "'")

/-- Arguments are read as options and operands, or a complaint is given. -/
def Grammar.read (g : Grammar) : List String → Except String Options
  | [] => .ok ⟨[], []⟩
  | "--" :: rest => .ok ⟨[], rest⟩
  | arg :: rest =>
    if arg.startsWith "--" then
      let body := (arg.drop 2).toString
      let (name, value?) := match Text.splitOnce '=' body with
        | some (name, value) => (name, some value)
        | none => (body, none)
      match g.longLetter? name with
      | none => .error ("unrecognized option '" ++ arg ++ "'")
      | some c =>
        if !g.valued.contains c then add [(c, value?.getD "")] (g.read rest)
        else
          match value?, rest with
          | some value, rest => add [(c, value)] (g.read rest)
          | none, value :: rest => add [(c, value)] (g.read rest)
          | none, [] => .error ("option '" ++ arg ++ "' requires an argument")
    else if arg.startsWith "-" && arg != "-" then
      match g.letters arg.toList.tail with
      | .error complaint => .error complaint
      | .ok (given, none) => add given (g.read rest)
      | .ok (given, some c) =>
        match rest with
        | value :: rest => add (given ++ [(c, value)]) (g.read rest)
        | [] => .error ("option requires an argument -- '" ++ c.toString ++ "'")
    else if g.mixes then
      (g.read rest).map fun o => { o with operands := arg :: o.operands }
    else .ok ⟨[], arg :: rest⟩
where
  add (given : List (Char × String)) (o : Except String Options) : Except String Options :=
    o.map fun o => { o with given := given ++ o.given }

/-- A program that reads its options; what it does with wrong ones is the same for all. -/
def withOptions (g : Grammar) (faultStatus : UInt8)
    (body : Surroundings → String → Options → Behaviour) : Utility := fun s name args =>
  match g.read args with
  | .ok o => body s name o
  | .error complaint =>
    .done (.ofComplaint faultStatus
      (name ++ ": " ++ complaint ++ "\nTry '" ++ name ++ " --help' for more information."))

/-! ## Files and the standard input -/

/-- The contents of some files in order, each with its name, or the fault with which it cannot be
read; a hyphen stands for the standard input, and so does a list without files. -/
abbrev Contents := List (String × Except FileFault Supply)

/-- Whether a path means the standard input. -/
def isInput (path : String) : Bool :=
  path = "-" || path = "/dev/stdin" || path = "/dev/fd/0" || path = "/proc/self/fd/0"

/-- The contents of files, with an input. The standard input can be read once. -/
def contentsOf (s : Surroundings) (paths : List String) (input : Supply) : Contents :=
  (paths.foldl (fun (isRead, found) path =>
    if isInput path then
      (true, (path, .ok (if isRead then .ofBytes .empty else input)) :: found)
    else (isRead, (path, s.read path) :: found)) (false, [])).2.reverse

/-- A program over files: what stands for the standard input is read once. -/
def overFiles (s : Surroundings) (paths : List String) (f : Contents → Effect) : Behaviour :=
  let paths := if paths.isEmpty then ["-"] else paths
  if paths.any isInput then .reading fun input => f (contentsOf s paths input)
  else .done (f (contentsOf s paths (.ofBytes .empty)))

/-- What is said about a file that cannot be read. -/
def readComplaint (name path : String) (fault : FileFault) : String :=
  name ++ ": " ++ path ++ ": " ++ fault.words

/-- A filter over the joined contents of files; every file that cannot be read is complained
about. -/
def filterFiles (s : Surroundings) (name : String) (paths : List String)
    (f : String → String) : Behaviour :=
  overFiles s paths fun contents =>
    let complaints := contents.filterMap fun (path, content) => match content with
      | .error fault => some (readComplaint name path fault)
      | .ok _ => none
    let text := String.join (contents.filterMap fun (_, content) => content.toOption.map (·.text))
    .ofBoth (if complaints.isEmpty then 0 else 1) complaints (f text)

/-- The number of decimal digits alone. -/
def decimal? (s : String) : Option Nat :=
  if s.isEmpty || !s.all (·.isDigit) then none
  else some (s.foldl (fun n c => 10 * n + (c.toNat - 48)) 0)

/-- A number with or without a sign. -/
def integer? (s : String) : Option Int :=
  match s.toList with
  | '-' :: ds => (decimal? (String.ofList ds)).map fun n => -(n : Int)
  | '+' :: ds => (decimal? (String.ofList ds)).map fun n => (n : Int)
  | _ => (decimal? s).map fun n => (n : Int)

/-- A text padded with blanks at its front. -/
def padLeft (width : Nat) (s : String) : String :=
  String.ofList (List.replicate (width - s.length) ' ') ++ s

/-- A text padded with blanks at its end. -/
def padRight (width : Nat) (s : String) : String :=
  s ++ String.ofList (List.replicate (width - s.length) ' ')

end Tool

end CiHarness
