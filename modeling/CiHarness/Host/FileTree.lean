import CiHarness.Host.Octets
import CiHarness.Project.Layout
import CiHarness.Text.Pieces

/-!
# File trees

A file system as data: every place is a list of names from the root, and holds a directory, a file,
a program of the system, a link or a device. A path is walked name by name; a link is walked in
place of its name, and at most forty links are followed. A walk ends at a canonical place, one that
is reached without links, `.` and `..`. Modes are kept, but a walk ignores them: it goes through any
directory, as it does for a user who may search them all.
-/
namespace CiHarness

/-- What a place holds. -/
inductive Content where
  | directory
  | file (bytes : ByteArray)
  /-- A program of the system, by its name. -/
  | tool (name : String)
  | link (target : String)
  /-- Devices: one that holds nothing, one that holds zeros without end, one that is always full. -/
  | void
  | zeros
  | full

/-- A place with its permissions and the time when it was last changed, in microseconds. -/
structure Entry where
  content : Content
  mode : Nat
  time : Nat

namespace Entry

/-- A file of a text, which may be executable. -/
def ofText (text : String) (isExecutable : Bool) : Entry :=
  ⟨.file text.toUTF8, if isExecutable then 0o755 else 0o644, 0⟩

/-- A directory. -/
def directory : Entry := ⟨.directory, 0o755, 0⟩

/-- A link. -/
def ofTarget (target : String) : Entry := ⟨.link target, 0o777, 0⟩

/-- A place is executable if anybody may execute it. -/
def isExecutable (e : Entry) : Bool := e.mode &&& 0o111 != 0

def isDirectory (e : Entry) : Bool := match e.content with
  | .directory => true
  | _ => false

def isLink (e : Entry) : Bool := match e.content with
  | .link _ => true
  | _ => false

/-- Regular files are files and the programs of the system. -/
def isRegular (e : Entry) : Bool := match e.content with
  | .file _ => true
  | .tool _ => true
  | _ => false

/-- The number of bytes of a place; the programs of the system have some. -/
def size (e : Entry) : Nat := match e.content with
  | .file bytes => bytes.size
  | .directory => 4096
  | .link target => target.utf8ByteSize
  | .tool _ => 1
  | _ => 0

end Entry

/-- A place as the names that lead to it from the root. -/
abbrev Place := List String

/-- Why an operation on files fails: for a reason that also keeps a program from being started, or
for one of its own. -/
inductive FileFault where
  | system (e : SystemError)
  | entryExists
  | notEmpty
  | invalid
  | noSpace
  | badDescriptor
  deriving DecidableEq

/-- The words of a fault. -/
def FileFault.words : FileFault → String
  | .system e => e.words
  | .entryExists => "File exists"
  | .notEmpty => "Directory not empty"
  | .invalid => "Invalid argument"
  | .noSpace => "No space left on device"
  | .badDescriptor => "Bad file descriptor"

/-- The places of a file system. The root is always there. -/
structure FileTree where
  entries : List (Place × Entry)

namespace Place

/-- The path of a place. -/
def toPath (here : Place) : Path :=
  ⟨if here.isEmpty then "/" else String.join (here.map ("/" ++ ·))⟩

end Place

namespace FileTree

/-- What a place holds, if it exists. -/
def entry? (t : FileTree) (here : Place) : Option Entry :=
  if here.isEmpty then some .directory else t.entries.lookup here

def isDirectoryAt (t : FileTree) (here : Place) : Bool := (t.entry? here).any (·.isDirectory)

/-- The number of links that a walk follows. -/
def linkLimit : Nat := 40

/-- The length of the longest name, and of the longest path. -/
def nameLimit : Nat := 255

def pathLimit : Nat := 4095

/-- A walk from a place over the names still to go; `links` more links may be followed. The mode of
a directory is not looked at. -/
def walk (t : FileTree) (links : Nat) (here : Place) (names : List String) :
    Except SystemError Place :=
  match names with
  | [] => .ok here
  | name :: rest =>
    if !t.isDirectoryAt here then .error .notADirectory
    else if name = "" ∨ name = "." then t.walk links here rest
    else if name = ".." then t.walk links here.dropLast rest
    else
      let next := here ++ [name]
      if nameLimit < name.utf8ByteSize ∨ pathLimit < next.toPath.text.utf8ByteSize then
        .error .nameTooLong
      else
        match (t.entry? next).map Entry.content with
        | none => .error .noSuchEntry
        | some (.link target) =>
          match links with
          | 0 => .error .symlinkLoop
          | links + 1 =>
            t.walk links (if (Path.mk target).isAbsolute then [] else here)
              (Text.split '/' target ++ rest)
        | some _ => t.walk links next rest
termination_by (links, names.length)

/-- The place that a path leads to from a working directory. -/
def find (t : FileTree) (cwd : Place) (p : Path) : Except SystemError Place :=
  if p.text = "" then .error .noSuchEntry
  else t.walk linkLimit (if p.isAbsolute then [] else cwd) (Text.split '/' p.text)

/-- What a path leads to from a working directory. A text that is too long is no path at all. -/
def findEntry (t : FileTree) (cwd : Place) (p : Path) : Except SystemError (Place × Entry) :=
  if pathLimit < p.text.utf8ByteSize then .error .nameTooLong
  else
    match t.find cwd p with
    | .error e => .error e
    | .ok here =>
      match t.entry? here with
      | none => .error .noSuchEntry
      | some entry => .ok (here, entry)

/-- A text with a NUL in it is no path. -/
def hasNul (s : String) : Bool := s.toList.contains '\x00'

/-- The questions that the harness puts to a file system, answered by a tree for processes in a
working directory. -/
def view (t : FileTree) (cwd : Place) : FileView where
  canonicalize p :=
    if hasNul p.text then .error .nulByte
    else
      match t.find cwd p with
      | .error e => .error (.system e)
      | .ok here => .ok here.toPath
  isFile p := (t.findEntry cwd p).toOption.any (·.2.isRegular)
  isDirectory p := (t.findEntry cwd p).toOption.any (·.2.isDirectory)

/-! ## Changing a tree -/

/-- An entry is put at a place, instead of the one that may be there. -/
def set (t : FileTree) (here : Place) (entry : Entry) : FileTree :=
  if (t.entries.lookup here).isSome then
    ⟨t.entries.map fun (there, old) => if there = here then (there, entry) else (there, old)⟩
  else ⟨(here, entry) :: t.entries⟩

/-- An entry is put at a place; the directories that lead to it are made as needed, and what is
already there is kept. -/
def put (t : FileTree) (here : Place) (entry : Entry) : FileTree :=
  let above := ((List.range here.length).map (here.take ·)).filter (t.entry? · |>.isNone)
  ⟨(if (t.entry? here).isNone then [(here, entry)] else []) ++ above.map (·, .directory) ++
    t.entries⟩

/-- A place and all places below it are taken away. -/
def erase (t : FileTree) (here : Place) : FileTree :=
  ⟨t.entries.filter fun (there, _) => !here.isPrefixOf there⟩

/-- The names in a directory, in the order of texts. -/
def children (t : FileTree) (here : Place) : List String :=
  (t.entries.filterMap fun (there, _) =>
    if there.length = here.length + 1 ∧ there.dropLast = here then there.getLast?
      else none).mergeSort (fun a b => decide (Octets.ofText a ≤ Octets.ofText b))

/-- A place is moved with all that is below it; what was at the new place is gone. -/
def move (t : FileTree) (source target : Place) : FileTree :=
  let t := if source = target then t else t.erase target
  ⟨t.entries.map fun (there, entry) =>
    if source.isPrefixOf there then (target ++ there.drop source.length, entry) else (there, entry)⟩

/-- The place of a last name, which need not exist, below the place that the path before it leads
to; a link in the last place is not followed. -/
def locate (t : FileTree) (cwd : Place) (p : Path) : Except SystemError Place :=
  let trimmed := (p.text.toList.reverse.dropWhile (· = '/')).reverse
  if p.text = "" then .error .noSuchEntry
  else if trimmed.isEmpty then .ok []
  else
    let names := Text.split '/' (String.ofList trimmed)
    let last := names.getLastD ""
    let start : Place := if p.isAbsolute then [] else cwd
    if last = "." ∨ last = ".." then t.find cwd p
    else if nameLimit < last.utf8ByteSize then .error .nameTooLong
    else
      match t.walk linkLimit start names.dropLast with
      | .error e => .error e
      | .ok here => if t.isDirectoryAt here then .ok (here ++ [last]) else .error .notADirectory

/-- What a path leads to if a link in its last place is not followed. -/
def locateEntry (t : FileTree) (cwd : Place) (p : Path) : Except SystemError (Place × Entry) :=
  if p.text.endsWith "/" then t.findEntry cwd p
  else
    match t.locate cwd p with
    | .error e => .error e
    | .ok here =>
      match t.entry? here with
      | none => .error .noSuchEntry
      | some entry => .ok (here, entry)

/-- The place where a path that is written to has its file: links are followed even to a place that
does not exist yet. -/
def landing (t : FileTree) (cwd : Place) (p : Path) : Except SystemError Place :=
  go linkLimit cwd p
where
  go : Nat → Place → Path → Except SystemError Place
    | 0, _, _ => .error .symlinkLoop
    | n + 1, cwd, p =>
      match t.locate cwd p with
      | .error e => .error e
      | .ok here =>
        match (t.entry? here).map Entry.content with
        | some (.link target) => go n here.dropLast ⟨target⟩
        | _ => if p.text.endsWith "/" then .error .isADirectory else .ok here

end FileTree

end CiHarness
