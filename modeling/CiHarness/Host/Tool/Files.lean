import CiHarness.Host.Tool.Dates
import CiHarness.Host.Tool.Lines

/-!
# Programs over files

Programs that make, copy, move, change and remove files, directories and links, and that tell what
is there. Operands are dealt with one after another; one that fails does not keep the next one from
being dealt with.
-/
namespace CiHarness.Tool

/-- What is done to one operand: the files after it and lines that are told, or a complaint. -/
abbrev Deed := Surroundings → String → Except String (FileTree × List String)

/-- Something is done to each operand in turn. -/
def inTurn (name : String) (deed : Deed) (s : Surroundings) (operands : List String) : Effect :=
  let (s, complaints, told) := operands.foldl (fun (s, complaints, told) path =>
    match deed s path with
    | .ok (files, lines) => ({ s with files := files }, complaints, told ++ lines)
    | .error words => (s, (name ++ ": " ++ words) :: complaints, told)) (s, [], [])
  { Effect.ofBoth (if complaints.isEmpty then 0 else 1) complaints.reverse (Octets.unlines told)
    with
    files := some s.files }

/-- A path between quotes. -/
def quotedPath (path : String) : String := "'" ++ path ++ "'"

/-- A path without slashes at its end. -/
def trimmedPath (path : String) : String :=
  let cs := (path.toList.reverse.dropWhile (· = '/')).reverse
  if cs.isEmpty && path.startsWith "/" then "/" else String.ofList cs

/-- The last name of a path. -/
def lastName (path : String) : String :=
  String.ofList (((trimmedPath path).toList.reverse.takeWhile (· != '/')).reverse)

/-- A path below another one. -/
def below (directory name : String) : String :=
  if directory.endsWith "/" then directory ++ name else directory ++ "/" ++ name

/-! ## Directories -/

/-- The beginnings of a path, each with one name more. -/
def beginnings (path : String) : List String :=
  let names := (Text.split '/' (trimmedPath path)).zipIdx
  (names.foldl (fun (all, so) (name, i) =>
    let here := if i = 0 then name else so ++ "/" ++ name
    (if here = "" then all else here :: all, here)) ([], "")).1.reverse

/-- A directory is made. -/
def makeDirectory (s : Surroundings) (mode : Nat) (path : String) : Except FileFault FileTree :=
  match s.locate path with
  | .error e => .error (.system e)
  | .ok here =>
    if (s.files.entry? here).isSome then .error .entryExists
    else .ok (s.files.set here ⟨.directory, mode, s.clock⟩)

def runMkdir : Utility :=
  withOptions (Grammar.ofText "m:pv" [("mode", 'm'), ("parents", 'p'), ("verbose", 'v')] true) 1
    fun s name o =>
      let mode := (((o.value? 'm').map fun m => m.foldl (fun n c => 8 * n + (c.toNat - 48)) 0)).getD
        (s.modeOf 0o777)
      let told (path : String) : List String :=
        if o.has 'v' then [name ++ ": created directory " ++ quotedPath path] else []
      let deed : Deed := fun s path =>
        if o.has 'p' then
          (beginnings path).foldl (fun done here =>
            match done with
            | .error words => .error words
            | .ok (files, lines) =>
              let s : Surroundings := { s with files := files }
              if s.isDirectory here then .ok (files, lines)
              else
                match makeDirectory s mode here with
                | .ok files => .ok (files, lines ++ told here)
                | .error fault =>
                  .error ("cannot create directory " ++ quotedPath here ++ ": " ++ fault.words))
            (.ok (s.files, []))
        else
          match makeDirectory s mode path with
          | .ok files => .ok (files, told path)
          | .error fault =>
            .error ("cannot create directory " ++ quotedPath path ++ ": " ++ fault.words)
      if o.operands.isEmpty then misuse 1 name "missing operand"
      else .done (inTurn name deed s o.operands)

def runRmdir : Utility :=
  withOptions (Grammar.ofText "pv" [("parents", 'p'), ("ignore-fail-on-non-empty", 'i')] true
    |> fun g => { g with plain := 'i' :: g.plain }) 1 fun s name o =>
      let remove (s : Surroundings) (path : String) : Except FileFault FileTree :=
        match s.findLink path with
        | .error e => .error (.system e)
        | .ok (here, entry) =>
          if !entry.isDirectory then .error (.system .notADirectory)
          else if !(s.files.children here).isEmpty then .error .notEmpty
          else .ok (s.files.erase here)
      let deed : Deed := fun s path =>
        (if o.has 'p' then (beginnings path).reverse else [path]).foldl (fun done here =>
          match done with
          | .error words => .error words
          | .ok (files, lines) =>
            match remove { s with files := files } here with
            | .ok files => .ok (files, lines)
            | .error .notEmpty => if o.has 'i' then .ok (files, lines)
              else .error ("failed to remove " ++ quotedPath here ++ ": " ++
                FileFault.notEmpty.words)
            | .error fault =>
              .error ("failed to remove " ++ quotedPath here ++ ": " ++ fault.words))
          (.ok (s.files, []))
      if o.operands.isEmpty then misuse 1 name "missing operand"
      else .done (inTurn name deed s o.operands)

/-! ## Removing -/

def runRm : Utility :=
  withOptions (Grammar.ofText "dfiIrRv" [("force", 'f'), ("recursive", 'r'), ("dir", 'd'),
    ("verbose", 'v')] true) 1 fun s name o =>
      let deed : Deed := fun s path =>
        let last := lastName path
        if last = "." ∨ last = ".." then
          .error ("refusing to remove '.' or '..' directory: skipping " ++ quotedPath path)
        else
          match s.findLink path with
          | .error e =>
            if o.has 'f' && (e = .noSuchEntry || e = .notADirectory) then .ok (s.files, [])
            else .error ("cannot remove " ++ quotedPath path ++ ": " ++ e.words)
          | .ok (here, entry) =>
            let isEmpty := (s.files.children here).isEmpty
            if entry.isDirectory && !o.has 'r' && !o.has 'R' && !(o.has 'd' && isEmpty) then
              .error ("cannot remove " ++ quotedPath path ++ ": " ++
                (if o.has 'd' then FileFault.notEmpty else FileFault.system .isADirectory).words)
            else
              .ok (s.files.erase here, if o.has 'v' then
                [if entry.isDirectory then "removed directory " ++ quotedPath path
                  else "removed " ++ quotedPath path] else [])
      if o.operands.isEmpty then
        if o.has 'f' then .done (.ofStatus 0) else misuse 1 name "missing operand"
      else .done (inTurn name deed s o.operands)

/-! ## Copying and moving -/

/-- The sources and the target that operands name; with a directory as target the sources keep their
last names. -/
structure Transfer where
  pairs : List (String × String)

/-- The transfers that operands ask for, or a complaint. -/
def Transfer.ofOptions (s : Surroundings) (name : String) (o : Options) : Except String Transfer :=
  let into (directory : String) (sources : List String) : Transfer :=
    ⟨sources.map fun source => (source, below directory (lastName source))⟩
  match o.value? 't' with
  | some directory =>
    if s.isDirectory directory then .ok (into directory o.operands)
    else .error (name ++ ": target directory " ++ quotedPath directory ++
      ": No such file or directory")
  | none =>
    match o.operands with
    | [] => .error (name ++ ": missing file operand" ++ helpHint name)
    | [source] =>
      .error
        (name ++ ": missing destination file operand after " ++ quotedPath source ++ helpHint name)
    | operands =>
      let target := operands.getLastD ""
      let sources := operands.dropLast
      if s.isDirectory target && !o.has 'T' then .ok (into target sources)
      else if sources.length = 1 then .ok ⟨sources.map (·, target)⟩
      else .error (name ++ ": target " ++ quotedPath target ++ ": " ++
        (if (s.find target).isOk then "Not a directory" else "No such file or directory"))

/-- Transfers are made one after another. -/
def transfer (s : Surroundings) (name : String) (o : Options)
    (deed : Surroundings → String → String → Except String (FileTree × List String)) : Behaviour :=
  match Transfer.ofOptions s name o with
  | .error complaint => .done (.ofComplaint 1 complaint)
  | .ok t =>
    let (s, complaints, told) := t.pairs.foldl (fun (s, complaints, told) (source, target) =>
      match deed s source target with
      | .ok (files, lines) => ({ s with files := files }, complaints, told ++ lines)
      | .error words => (s, (name ++ ": " ++ words) :: complaints, told)) (s, [], [])
    .done { Effect.ofBoth (if complaints.isEmpty then 0 else 1) complaints.reverse
      (Octets.unlines told) with files := some s.files }

/-- A file's entry is copied to where a path lands. -/
def copyFile (s : Surroundings) (keepsTime : Bool) (entry : Entry) (target : String) :
    Except FileFault FileTree :=
  match s.files.landing s.cwd ⟨Octets.toText target⟩ with
  | .error e => .error (.system e)
  | .ok here =>
    match s.files.entry? here with
    | some old =>
      match old.content with
      | .directory => .error (.system .isADirectory)
      | .void => .ok s.files
      | _ => .ok (s.files.set here { old with content := entry.content, time := s.clock })
    | none =>
      .ok (s.files.set here { entry with time := if keepsTime then entry.time else s.clock })

/-- A directory is copied with all that is below it. -/
def copyTree (s : Surroundings) (source target : Place) : FileTree :=
  let copies := s.files.entries.filterMap fun (there, entry) =>
    if source.isPrefixOf there ∧
      there != source then some (target ++ there.drop source.length, entry) else none
  let files := if (s.files.entry? target).isSome then s.files
    else s.files.set target ⟨.directory, s.modeOf 0o777, s.clock⟩
  copies.reverse.foldl (fun t (there, entry) => t.set there entry) files

def runCp : Utility :=
  withOptions (Grammar.ofText "adfHilLnpPrRst:Tuv" [("archive", 'a'), ("force", 'f'),
    ("recursive", 'r'), ("no-clobber", 'n'), ("target-directory", 't'),
    ("no-target-directory", 'T'), ("verbose", 'v'),
    ("update", 'u'), ("dereference", 'L'), ("no-dereference", 'P')] true) 1 fun s name o =>
      let recursive := o.has 'r' || o.has 'R' || o.has 'a'
      let keepsLinks := (o.has 'P' || o.has 'd' || o.has 'a' || (recursive && !o.has 'L')) &&
        !o.has 'L'
      transfer s name o fun s source target =>
        let told := if o.has 'v' then [quotedPath source ++ " -> " ++ quotedPath target] else []
        match (if keepsLinks then s.findLink source else s.find source) with
        | .error e => .error ("cannot stat " ++ quotedPath source ++ ": " ++ e.words)
        | .ok (here, entry) =>
          let there? := (s.find target).toOption
          if entry.isDirectory then
            if !recursive then
              .error ("-r not specified; omitting directory " ++ quotedPath source)
            else
              match s.locate target with
              | .error e =>
                .error ("cannot create directory " ++ quotedPath target ++ ": " ++ e.words)
              | .ok there =>
                let there := (there?.map (·.1)).getD there
                if here.isPrefixOf there then
                  .error ("cannot copy a directory, " ++ quotedPath source ++ ", into itself, " ++
                    quotedPath target)
                else if there?.any (!·.2.isDirectory) then
                  .error ("cannot overwrite non-directory " ++ quotedPath target ++
                    " with directory " ++ quotedPath source)
                else .ok (copyTree s here there, told)
          else if o.has 'n' && there?.isSome then .ok (s.files, [])
          else if there?.any (·.1 = here) && !o.has 's' && !o.has 'l' then
            .error (quotedPath source ++ " and " ++ quotedPath target ++ " are the same file")
          else if o.has 'u' && there?.any (fun (_, old) => entry.time ≤ old.time) then
            .ok (s.files, [])
          else if there?.any (·.2.isDirectory) then
            .error ("cannot overwrite directory " ++ quotedPath target ++ " with non-directory " ++
              quotedPath source)
          else
            match copyFile s (o.has 'p' || o.has 'a') entry target with
            | .ok files => .ok (files, told)
            | .error fault =>
              .error ("cannot create regular file " ++ quotedPath target ++ ": " ++
                (if fault = .system .isADirectory then "Not a directory" else fault.words))

/-- The program that copies files to where they are used, with permissions. -/
def runInstall : Utility :=
  withOptions (Grammar.ofText "dDm:t:TvpCo:g:s" [("directory", 'd'), ("mode", 'm'),
    ("target-directory", 't'), ("no-target-directory", 'T'), ("verbose", 'v')] true) 1 fun s name
    o =>
      let mode := (((o.value? 'm').map fun m => m.foldl (fun n c => 8 * n + (c.toNat - 48)) 0)).getD
        0o755
      let makeAll (s : Surroundings) (path : String) (mode : Nat) : Except String FileTree :=
        (beginnings path).foldl (fun done here => done.bind fun files =>
          let s : Surroundings := { s with files := files }
          if s.isDirectory here then .ok files
          else (makeDirectory s mode here).mapError fun fault =>
            "cannot create directory " ++ quotedPath here ++ ": " ++ fault.words) (.ok s.files)
      if o.has 'd' then
        if o.operands.isEmpty then misuse 1 name "missing file operand"
        else .done (inTurn name (fun s path => (makeAll s path mode).map (·, [])) s o.operands)
      else
        let target := (o.value? 't').getD (o.operands.getLastD "")
        let parent := (Text.split '/' target).dropLast
        let before : Surroundings :=
          if o.has 'D' && 1 < o.operands.length then
            { s with files := (makeAll s ("/".intercalate parent) 0o755).toOption.getD s.files }
          else s
        transfer before name o fun s source target =>
          match s.find source with
          | .error e => .error ("cannot stat " ++ quotedPath source ++ ": " ++ e.words)
          | .ok (_, entry) =>
            if entry.isDirectory then .error ("omitting directory " ++ quotedPath source)
            else
              match copyFile s false entry target with
              | .error fault =>
                .error ("cannot create regular file " ++ quotedPath target ++ ": " ++ fault.words)
              | .ok files =>
                match { s with files := files }.find target with
                | .ok (here, copied) => .ok (files.set here { copied with mode := mode },
                    if o.has 'v' then [quotedPath source ++ " -> " ++ quotedPath target] else [])
                | .error _ => .ok (files, [])

/-- The program that removes one name. -/
def runUnlink : Utility :=
  withOptions (Grammar.ofText "" [] true) 1 fun s name o =>
    match o.operands with
    | [path] =>
      .done (inTurn name (fun s path =>
        match s.findLink path with
        | .error e => .error ("cannot unlink " ++ quotedPath path ++ ": " ++ e.words)
        | .ok (here, entry) =>
          if entry.isDirectory then
            .error ("cannot unlink " ++ quotedPath path ++ ": Is a directory")
          else .ok (s.files.erase here, [])) s [path])
    | [] => misuse 1 name "missing operand"
    | _ :: extra :: _ => misuse 1 name ("extra operand " ++ quotedPath extra)

/-- The program that gives a file a second name, under which there is a copy here. -/
def runLink : Utility :=
  withOptions (Grammar.ofText "" [] true) 1 fun s name o =>
    match o.operands with
    | [source, target] =>
      .done (inTurn name (fun s _ =>
        let start := "cannot create link " ++ quotedPath target ++ " to " ++ quotedPath source ++
          ": "
        match s.findLink source with
        | .error e => .error (start ++ e.words)
        | .ok (_, entry) =>
          if (s.findLink target).isOk then .error (start ++ FileFault.entryExists.words)
          else (copyFile s true entry target).map (·, []) |>.mapError fun fault =>
            start ++ fault.words) s [source])
    | [] => misuse 1 name "missing operand"
    | [path] => misuse 1 name ("missing operand after " ++ quotedPath path)
    | _ :: _ :: extra :: _ => misuse 1 name ("extra operand " ++ quotedPath extra)

/-- The names of the pieces of a file: letters or digits that count up, behind a common
beginning. -/
def pieceName (start : String) (usesDigits : Bool) (size i : Nat) : String :=
  let base := if usesDigits then 10 else 26
  let first := if usesDigits then 48 else 97
  let marks := (List.range size).map fun k => Char.ofNat (first + i / Nat.pow base k % base)
  start ++ String.ofList marks.reverse

/-- A number of bytes with a unit perhaps. -/
def byteCount? (text : String) : Option Nat :=
  let digits := text.takeWhile Char.isDigit |>.toString
  let unit := (text.drop digits.length).toString
  (decimal? digits).bind fun n =>
    match unit with
    | "" => some n
    | "b" => some (512 * n)
    | "k" => some (1024 * n)
    | "K" => some (1024 * n)
    | "KB" => some (1000 * n)
    | "M" => some (1048576 * n)
    | "m" => some (1048576 * n)
    | _ => none

/-- The program that cuts a file into several. -/
def runSplit : Utility :=
  withOptions (Grammar.ofText "l:b:da:" [("lines", 'l'), ("bytes", 'b'), ("numeric-suffixes", 'd'),
    ("suffix-length", 'a')] true) 1 fun s name o =>
      overFiles s [o.operands.headD "-"] fun contents =>
        match contents with
        | [(_, .ok supply)] =>
          let text := supply.text
          let rec groups (size : Nat) : Nat → List String → List String
            | 0, _ => []
            | n + 1, parts =>
              if parts.isEmpty then [] else String.join (parts.take size) ::
                groups size n (parts.drop size)
          let parts := match (o.value? 'b').bind byteCount? with
            | some size => groups (max size 1) (text.length + 1) (text.toList.map Char.toString)
            | none =>
              let size := max 1 (((o.value? 'l').bind decimal?).getD 1000)
              groups size (text.length + 1) ((Octets.lineChars text.toList).map String.ofList)
          let start := o.operands.getD 1 "x"
          let size := ((o.value? 'a').bind decimal?).getD 2
          let written := parts.zipIdx.foldl (fun (done : Except FileFault Surroundings) (part, i) =>
            done.bind fun s =>
              (s.writeFile (pieceName start (o.has 'd') size i) (Octets.toBytes part)).map
              fun files =>
                { s with files := files }) (.ok s)
          match written with
          | .ok after => { Effect.ofStatus 0 with files := some after.files }
          | .error fault => .ofComplaint 1 (name ++ ": " ++ start ++ ": " ++ fault.words)
        | (path, .error fault) :: _ => .ofComplaint 1
            (name ++ ": cannot open " ++ quotedPath path ++ " for reading: " ++ fault.words)
        | _ => .ofStatus 1

def runMv : Utility :=
  withOptions (Grammar.ofText "finTt:uv" [("force", 'f'), ("no-clobber", 'n'),
    ("target-directory", 't'), ("no-target-directory", 'T'), ("verbose", 'v'), ("update", 'u')]
      true) 1 fun s name o =>
      transfer s name o fun s source target =>
        match s.findLink source with
        | .error e => .error ("cannot stat " ++ quotedPath source ++ ": " ++ e.words)
        | .ok (here, entry) =>
          match s.locate (trimmedPath target) with
          | .error e =>
            .error ("cannot move " ++ quotedPath source ++ " to " ++ quotedPath target ++ ": " ++
              e.words)
          | .ok there =>
            let old? := s.files.entry? there
            if there = here then
              .error (quotedPath source ++ " and " ++ quotedPath target ++ " are the same file")
            else if here.isPrefixOf there then
              .error ("cannot move " ++ quotedPath source ++ " to a subdirectory of itself, " ++
                quotedPath target)
            else if o.has 'n' && old?.isSome then .ok (s.files, [])
            else if target.endsWith "/" && !entry.isDirectory && !old?.any (·.isDirectory) then
              .error ("cannot move " ++ quotedPath source ++ " to " ++ quotedPath target ++
                ": Not a directory")
            else
              match old? with
              | some old =>
                if entry.isDirectory && !old.isDirectory then
                  .error ("cannot overwrite non-directory " ++ quotedPath target ++
                    " with directory " ++ quotedPath source)
                else if !entry.isDirectory && old.isDirectory then
                  .error ("cannot overwrite directory " ++ quotedPath target ++
                    " with non-directory " ++ quotedPath source)
                else if old.isDirectory && !(s.files.children there).isEmpty then
                  .error ("cannot overwrite " ++ quotedPath target ++ ": Directory not empty")
                else .ok (s.files.move here there, told o source target)
              | none => .ok (s.files.move here there, told o source target)
where
  told (o : Options) (source target : String) : List String :=
    if o.has 'v' then ["renamed " ++ quotedPath source ++ " -> " ++ quotedPath target] else []

def runLn : Utility :=
  withOptions (Grammar.ofText "fiLnPrst:Tv" [("symbolic", 's'), ("force", 'f'),
    ("no-dereference", 'n'), ("target-directory", 't'), ("no-target-directory", 'T'),
      ("verbose", 'v')] true) 1 fun s name o =>
      let o : Options := match o.operands with
        | [only] => { o with operands := [only, "."] }
        | _ => o
      transfer s name o fun s source target =>
        let kind := if o.has 's' then "symbolic link " else "hard link "
        let made : Except String Entry :=
          if o.has 's' then .ok ⟨.link (Octets.toText source), 0o777, s.clock⟩
          else
            match s.findLink source with
            | .error e => .error ("failed to access " ++ quotedPath source ++ ": " ++ e.words)
            | .ok (_, entry) =>
              if entry.isDirectory then .error (source ++ ": hard link not allowed for directory")
              else .ok entry
        match made with
        | .error words => .error words
        | .ok entry =>
          match s.locate target with
          | .error e => .error ("failed to create " ++ kind ++ quotedPath target ++ ": " ++ e.words)
          | .ok there =>
            match s.files.entry? there with
            | none => .ok (s.files.set there entry, [])
            | some old =>
              if o.has 'f' && !old.isDirectory then .ok (s.files.set there entry, [])
              else .error ("failed to create " ++ kind ++ quotedPath target ++ ": File exists")

/-! ## Touching and permitting -/

def runTouch : Utility :=
  withOptions (Grammar.ofText "acd:fhmr:t:" [("no-create", 'c'), ("date", 'd'), ("reference", 'r')]
    true) 1
    fun s name o =>
      let time : Except String Nat :=
        match o.value? 'r', o.value? 'd', o.value? 't' with
        | some path, _, _ =>
          match s.find path with
          | .ok (_, entry) => .ok entry.time
          | .error e =>
            .error (name ++ ": failed to get attributes of " ++ quotedPath path ++ ": " ++ e.words)
        | none, some text, _ =>
          match Moment.read? (present s) text with
          | some t => .ok t.clock
          | none => .error (name ++ ": invalid date format " ++ quotedPath text)
        | none, none, some text =>
          match stamp? (present s) text with
          | some n => .ok n
          | none => .error (name ++ ": invalid date format " ++ quotedPath text)
        | none, none, none => .ok s.clock
      let deed (time : Nat) : Deed := fun s path =>
        match s.find path with
        | .ok (here, entry) => .ok (s.files.set here { entry with time := time }, [])
        | .error e =>
          if e = .noSuchEntry && !path.endsWith "/" then
            if o.has 'c' then .ok (s.files, [])
            else
              match { s with clock := time }.writeFile path .empty with
              | .ok files => .ok (files, [])
              | .error fault => .error ("cannot touch " ++ quotedPath path ++ ": " ++ fault.words)
          else .error ((if path.endsWith "/" then "setting times of " else "cannot touch ") ++
            quotedPath path ++ ": " ++ e.words)
      match time with
      | .error complaint => .done (.ofComplaint 1 complaint)
      | .ok time =>
        if o.operands.isEmpty then misuse 1 name "missing file operand"
        else .done (inTurn name (deed time) s o.operands)

/-- A clause of permissions: for whom, in what way, and which. What new files lack is not given by a
clause that is about nobody. -/
def permit (isDirectory : Bool) (lacking mode : Nat) (clause : String) : Option Nat :=
  let cs := clause.toList
  let who := cs.takeWhile fun c => c = 'u' || c = 'g' || c = 'o' || c = 'a'
  go (cs.length + 1) who mode (cs.drop who.length)
where
  mask (who : List Char) : Nat :=
    let has (c : Char) : Bool := who.isEmpty || who.contains 'a' || who.contains c
    (if has 'u' then 0o4700 else 0) ||| (if has 'g' then 0o2070 else 0) |||
    (if has 'o' then 0o1007 else 0)
  bits (mode : Nat) (cs : List Char) : Option Nat :=
    cs.foldl (fun all c => all.bind fun n => match c with
      | 'r' => some (n ||| 0o444)
      | 'w' => some (n ||| 0o222)
      | 'x' => some (n ||| 0o111)
      | 'X' => some (if isDirectory || mode &&& 0o111 != 0 then n ||| 0o111 else n)
      | 's' => some (n ||| 0o6000)
      | 't' => some (n ||| 0o1000)
      | 'u' => some (n ||| (mode / 64 % 8 * 0o111))
      | 'g' => some (n ||| (mode / 8 % 8 * 0o111))
      | 'o' => some (n ||| (mode % 8 * 0o111))
      | _ => none) (some 0)
  go : Nat → List Char → Nat → List Char → Option Nat
    | 0, _, _, _ => none
    | _ + 1, _, mode, [] => some mode
    | n + 1, who, mode, sign :: cs =>
      let letters := cs.takeWhile fun c => c != '+' && c != '-' && c != '='
      let rest := cs.drop letters.length
      (bits mode letters).bind fun b =>
        let m := mask who &&& b
        let m := if who.isEmpty then m - (m &&& lacking) else m
        if sign = '+' then go n who (mode ||| m) rest
        else if sign = '-' then go n who (mode &&& (0o7777 - (m &&& 0o7777))) rest
        else if sign = '=' then go n who ((mode &&& (0o7777 - mask who)) ||| m) rest
        else none

/-- Permissions from a number or from clauses, applied to others. -/
def permissions? (isDirectory : Bool) (lacking : Nat) (spec : String) (mode : Nat) : Option Nat :=
  if spec.all (fun c => '0' ≤ c && c ≤ '7') && spec != "" then
    some (spec.foldl (fun n c => 8 * n + (c.toNat - 48)) 0)
  else (Text.split ',' spec).foldl
    (fun m clause => m.bind fun m => permit isDirectory lacking m clause) (some mode)

def runChmod : Utility := fun s name args =>
  -- permissions that begin with a minus are no option
  let isClause (arg : String) : Bool := arg.startsWith "-" && 1 < arg.length &&
    (arg.toList.tail.all fun c => ['r', 'w', 'x', 'X', 's', 't', 'u', 'g', 'o'].contains c)
  let (args, clause?) := match args.find? isClause with
    | some clause => (args.filter (· != clause), some clause)
    | none => (args, none)
  withOptions (Grammar.ofText "cfRv" [("recursive", 'R'), ("verbose", 'v'), ("quiet", 'f')] true) 1
    (fun s name o =>
      let (spec, paths) := match clause? with
        | some clause => (clause, o.operands)
        | none => (o.operands.headD "", o.operands.tail)
      if spec = "" then misuse 1 name "missing operand"
      else if (permissions? false s.mask spec 0).isNone then
        misuse 1 name ("invalid mode: " ++ quotedPath spec)
      else if paths.isEmpty then misuse 1 name ("missing operand after " ++ quotedPath spec)
      else
        let change (files : FileTree) (here : Place) (entry : Entry) : FileTree :=
          files.set here { entry with
            mode := (permissions? entry.isDirectory s.mask spec entry.mode).getD entry.mode }
        let deed : Deed := fun s path =>
          match s.find path with
          | .error e => .error ("cannot access " ++ quotedPath path ++ ": " ++ e.words)
          | .ok (here, entry) =>
            let files := change s.files here entry
            if o.has 'R' then
              .ok (s.files.entries.foldl (fun files (there, entry) =>
                if here.isPrefixOf there && there != here && !entry.isLink then
                  change files there entry
                else files) files, [])
            else .ok (files, [])
        .done (inTurn name deed s paths)) s name args

/-! ## Telling -/

/-- The canonical path of a path whose last names need not exist. -/
def canonical (s : Surroundings) (mayMiss : Nat) (path : String) : Except SystemError String :=
  match s.files.find s.cwd ⟨Octets.toText path⟩ with
  | .ok here => .ok (Octets.ofText here.toPath.text)
  | .error e =>
    if e = .noSuchEntry && 0 < mayMiss && path != "" then
      match s.files.landing s.cwd ⟨Octets.toText (trimmedPath path)⟩ with
      | .ok here => .ok (Octets.ofText here.toPath.text)
      | .error e =>
        if mayMiss = 1 then .error e
        else
          -- what does not exist is taken as it is written
          let whole := if path.startsWith "/" then path
            else below (Octets.ofText s.cwd.toPath.text) path
          let names := (Text.split '/' whole).foldl (fun way name =>
            if name = "" ∨ name = "." then way
            else if name = ".." then way.dropLast else way ++ [name]) []
          .ok ("/" ++ "/".intercalate names)
    else .error e

def runReadlink : Utility :=
  withOptions (Grammar.ofText "efmnqsvz" [("canonicalize", 'f'), ("canonicalize-existing", 'e'),
    ("canonicalize-missing", 'm'), ("no-newline", 'n')] true) 1 fun s name o =>
      let one (path : String) : Option String :=
        if o.has 'e' then (canonical s 0 path).toOption
        else if o.has 'm' then (canonical s 2 path).toOption
        else if o.has 'f' then (canonical s 1 path).toOption
        else
          match s.findLink path with
          | .ok (_, ⟨.link target, _, _⟩) => some (Octets.ofText target)
          | _ => none
      let found := o.operands.map one
      if o.operands.isEmpty then misuse 1 name "missing operand"
      else
        let text := if o.has 'n' && o.operands.length = 1 then (found.filterMap id).headD ""
          else Octets.unlines (found.filterMap id)
        .done (.ofText (if found.all Option.isSome then 0 else 1) text)

def runRealpath : Utility :=
  withOptions (Grammar.ofText "eLmPqsz" [("canonicalize-existing", 'e'),
    ("canonicalize-missing", 'm'), ("no-symlinks", 's'), ("quiet", 'q')] true) 1 fun s name o =>
      let found := (if o.operands.isEmpty then [] else o.operands).map fun path =>
        (path, canonical s (if o.has 'e' then 0 else if o.has 'm' then 2 else 1) path)
      if o.operands.isEmpty then misuse 1 name "missing operand"
      else
        .done (.ofBoth (if found.all (·.2.isOk) then 0 else 1)
          (found.filterMap fun (path, r) => match r with
            | .error e => some (name ++ ": " ++ path ++ ": " ++ e.words)
            | .ok _ => none)
          (Octets.unlines (found.filterMap fun (_, r) => r.toOption)))

/-- The permissions of a place as ten letters. -/
def modeText (e : Entry) : String :=
  let kind := match e.content with
    | .directory => "d"
    | .link _ => "l"
    | .void => "c"
    | .zeros => "c"
    | .full => "c"
    | _ => "-"
  let triple (n : Nat) : String :=
    (if n &&& 4 != 0 then "r" else "-") ++ (if n &&& 2 != 0 then "w" else "-") ++
      (if n &&& 1 != 0 then "x" else "-")
  kind ++ triple (e.mode / 64) ++ triple (e.mode / 8) ++ triple e.mode

/-- What kind of place it is, in words. -/
def kindWords (e : Entry) : String := match e.content with
  | .directory => "directory"
  | .link _ => "symbolic link"
  | .file bytes => if bytes.isEmpty then "regular empty file" else "regular file"
  | .tool _ => "regular file"
  | _ => "character special file"

def runStat : Utility :=
  withOptions (Grammar.ofText "c:fLt" [("format", 'c'), ("printf", 'p'), ("dereference", 'L')] true
    |> fun g => { g with valued := 'p' :: g.valued }) 1 fun s name o =>
      let render (path : String) (e : Entry) : List Char → String :=
        let rec go : List Char → String
          | '%' :: c :: cs =>
            (match c with
            | 'n' => path
            | 's' => toString e.size
            | 'a' => String.ofList (Nat.toDigits 8 e.mode)
            | 'A' => modeText e
            | 'F' => kindWords e
            | 'U' => "root"
            | 'G' => "root"
            | 'u' => "0"
            | 'g' => "0"
            | 'h' => "1"
            | 'Y' => toString (e.time / 1000000)
            | 'N' => match e.content with
              | .link target => quotedPath path ++ " -> " ++ quotedPath (Octets.ofText target)
              | _ => quotedPath path
            | '%' => "%"
            | c => "%" ++ c.toString) ++ go cs
          | c :: cs => c.toString ++ go cs
          | [] => ""
        go
      let found := o.operands.map fun path =>
        (path, if o.has 'L' then s.find path else s.findLink path)
      let text (path : String) (e : Entry) : String :=
        match o.value? 'p', o.value? 'c' with
        | some f, _ => render path e (Escapes.numbers.replace f.toList).1
        | none, some f => render path e f.toList ++ "\n"
        | none, none => "  File: " ++ path ++ "\n  Size: " ++ toString e.size ++ "\n"
      if found.isEmpty then misuse 1 name "missing operand"
      else .done (.ofBoth (if found.all (·.2.isOk) then 0 else 1)
        (found.filterMap fun (path, r) => match r with
          | .error e => some (name ++ ": cannot stat " ++ quotedPath path ++ ": " ++ e.words)
          | .ok _ => none)
        (String.join (found.filterMap fun (path, r) => r.toOption.map fun (_, e) => text path e)))

/-- The name of a new file, from a template whose last letters are replaced. -/
def freshName (s : Surroundings) (directory template : String) : Option String :=
  let cs := template.toList
  let suffix := (cs.reverse.takeWhile (· != 'X')).reverse
  let front := cs.take (cs.length - suffix.length)
  let marks := front.reverse.takeWhile (· = 'X')
  let body := String.ofList (front.take (front.length - marks.length))
  if marks.length < 3 then none
  else
    let candidate (i : Nat) : String :=
      let ds := Nat.toDigits 10 i
      let path := body ++ String.ofList (List.replicate (marks.length - ds.length) 'a' ++ ds) ++
        String.ofList suffix
      if directory = "" then path else below directory path
    ((List.range 1000).map candidate).find? fun path => !(s.findLink path).isOk

def runMktemp : Utility :=
  withOptions (Grammar.ofText "dp:qtu" [("directory", 'd'), ("dry-run", 'u'), ("tmpdir", 'p'),
    ("quiet", 'q')] true) 1 fun s name o =>
      let home := (s.environment.lookup "TMPDIR").getD "/tmp"
      let directory := if o.operands.isEmpty || o.has 't' then (o.value? 'p').getD home
        else (o.value? 'p').getD ""
      let template := o.operands.headD "tmp.XXXXXXXXXX"
      match freshName s directory template with
      | none => .done (.ofComplaint 1 (name ++ ": too few X's in template " ++ quotedPath template))
      | some path =>
        if o.has 'u' then .done (.ofText 0 (path ++ "\n"))
        else
          let made := if o.has 'd' then makeDirectory s 0o700 path
            else (s.writeFile path .empty).map fun files =>
              match ({ s with files := files }).find path with
              | .ok (here, entry) => files.set here { entry with mode := 0o600 }
              | .error _ => files
          match made with
          | .ok files => .done ⟨0, [(1, path ++ "\n")], some files⟩
          | .error fault =>
            .done (.ofComplaint 1 (name ++ ": failed to create " ++
              (if o.has 'd' then "directory" else "file") ++ " via template " ++
              quotedPath (if directory = "" then template else below directory template) ++ ": " ++
                fault.words))

/-! ## Listing -/

/-- How a directory is listed. -/
structure Listing where
  options : Options

namespace Listing

/-- The number under which a file system keeps a name. -/
def number (_ : Listing) (name : String) : Nat :=
  1000000 + name.foldl (fun n c => (31 * n + c.toNat) % 900000) 7

/-- A name as it is shown, with a mark for its kind perhaps. -/
def label (l : Listing) (name : String) (e : Entry) : String :=
  let name := if l.options.has 'Q' then "\"" ++ name ++ "\"" else name
  let name := if l.options.has 'i' then toString (l.number name) ++ " " ++ name else name
  if l.options.has 'F' then
    name ++ (match e.content with
      | .directory => "/"
      | .link _ => if l.options.has 'l' then "" else "@"
      | _ => if e.isRegular && e.isExecutable then "*" else "")
  else if l.options.has 'p' && e.isDirectory then name ++ "/"
  else name

/-- Names in the order in which they are shown. -/
def ordered (l : Listing) (all : List (String × Entry)) : List (String × Entry) :=
  let byName := if l.options.has 'U' || l.options.has 'f' then all
    else all.mergeSort fun a b => decide (a.1 ≤ b.1)
  let sorted :=
    if l.options.has 'S' then byName.mergeSort fun a b => decide (b.2.size ≤ a.2.size)
    else if l.options.has 't' then byName.mergeSort fun a b => decide (b.2.time ≤ a.2.time)
    else byName
  if l.options.has 'r' then sorted.reverse else sorted

/-- The lines of some places. -/
def linesOf (l : Listing) (all : List (String × Entry)) : List String :=
  let all := l.ordered all
  if l.options.has 'l' || l.options.has 'n' || l.options.has 'g' || l.options.has 'o' then
    let width := all.foldl (fun n (_, e) => max n (toString e.size).length) 0
    all.map fun (name, e) =>
      modeText e ++ " 1 root root " ++ padLeft width (toString e.size) ++ " Jan  1 00:00 " ++
        l.label name e ++ (match e.content with
          | .link target => " -> " ++ Octets.ofText target
          | _ => "")
  else if l.options.has 'm' then
    if all.isEmpty then [] else [", ".intercalate (all.map fun (name, e) => l.label name e)]
  else if l.options.has 'x' || l.options.has 'C' then
    if all.isEmpty then [] else ["  ".intercalate (all.map fun (name, e) => l.label name e)]
  else all.map fun (name, e) => l.label name e

/-- The places in a directory that are shown. -/
def within (l : Listing) (files : FileTree) (here : Place) : List (String × Entry) :=
  let names := (files.children here).map Octets.ofText
  let shownNames := if l.options.has 'a' || l.options.has 'f' || l.options.has 'A' then names
    else names.filter (!·.startsWith ".")
  let found := shownNames.filterMap fun name =>
    (files.entry? (here ++ [Octets.toText name])).map (name, ·)
  if l.options.has 'a' || l.options.has 'f' then
    (".", .directory) :: ("..", .directory) :: found else found

/-- A directory with its title perhaps, and all below it if that is asked for. -/
def directory (l : Listing) (files : FileTree) : Nat → Bool → String → Place → List (List String)
  | 0, _, _, _ => []
  | n + 1, hasTitle, path, here =>
    let found := l.within files here
    let total := if l.options.has 'l' then ["total 0"] else []
    let first := (if hasTitle then [path ++ ":"] else []) ++ total ++ l.linesOf found
    let inner := if l.options.has 'R' then
        (l.ordered found).flatMap fun (name, e) =>
          if e.isDirectory && name != "." && name != ".." then
            l.directory files n true (below path name) (here ++ [Octets.toText name])
          else []
      else []
    first :: inner

end Listing

def runLs : Utility :=
  withOptions (Grammar.ofText "aAbBcCdfFgGhHiklLmnNopqQrRsStTuUvwxX1"
    [("all", 'a'), ("almost-all", 'A'), ("directory", 'd'), ("recursive", 'R'), ("reverse", 'r'),
      ("classify", 'F'), ("color", 'G')] true) 2
    fun s name o =>
      let l : Listing := ⟨o⟩
      let paths := if o.operands.isEmpty then ["."] else o.operands
      let found := paths.map fun path =>
        (path, match (if o.has 'd' || o.has 'l' then s.findLink path else s.find path) with
          | .ok found => Except.ok found
          | .error e =>
            match s.findLink path with
            | .ok found => .ok found
            | .error _ => .error e)
      let complaints := found.filterMap fun (path, r) => match r with
        | .error e => some (name ++ ": cannot access " ++ quotedPath path ++ ": " ++ e.words)
        | .ok _ => none
      let here := found.filterMap fun (path, r) => r.toOption.map fun (place, e) => (path, place, e)
      let isListed (e : Entry) : Bool := e.isDirectory && !o.has 'd'
      let single := here.filter fun (_, _, e) => !isListed e
      let directories := (l.ordered
        ((here.filter fun (_, _, e) => isListed e).map fun (path, _, e) => (path, e)))
      let hasTitle := 1 < paths.length || o.has 'R'
      let blocks := directories.flatMap fun (path, _) =>
        match here.find? fun (p, _, _) => p = path with
        | some (_, place, _) => l.directory s.files 64 hasTitle path place
        | none => []
      let singles := l.linesOf (single.map fun (path, _, e) => (path, e))
      let all := (if singles.isEmpty then [] else [singles]) ++ blocks
      .done (.ofBoth (if complaints.isEmpty then 0 else 2) complaints
        ("\n".intercalate (all.map Octets.unlines)))

/-! ## Bytes in blocks -/

/-- The program that copies blocks of bytes. -/
def runDd : Utility := fun s name args =>
  let value? (key : String) : Option String :=
    (args.reverse.find? (·.startsWith (key ++ "="))).map fun arg =>
      (arg.drop (key.length + 1)).toString
  let converts (kind : String) : Bool := (value? "conv").any fun c =>
    (Text.split ',' c).contains kind
  let number (key : String) (default : Nat) : Nat := ((value? key).bind Extent.count?).getD default
  let size := max 1 (number "bs" (number "ibs" 512))
  let copy (input : Supply) : Effect :=
    let input := { input with position := input.position + size * number "skip" 0 }
    let bytes := match value? "count" with
      | some n => (input.take (size * (Extent.count? n).getD 0)).1
      | none => input.all
    let recased (b : UInt8) : UInt8 :=
      let c := Char.ofNat b.toNat
      if converts "ucase" then UInt8.ofNat c.toUpper.toNat
      else if converts "lcase" then UInt8.ofNat c.toLower.toNat else b
    let bytes := if converts "ucase" || converts "lcase" then
        bytes.foldl (fun (out : ByteArray) b => out.push (recased b)) .empty
      else bytes
    let full := bytes.size / size
    let partly := if bytes.size % size = 0 then 0 else 1
    let records := toString full ++ "+" ++ toString partly ++ " records "
    let told := if (value? "status") = some "none" then [] else
      [(2, records ++ "in\n" ++ records ++ "out\n" ++ toString bytes.size ++ " bytes copied\n")]
    match value? "of" with
    | none => ⟨0, told ++ if bytes.isEmpty then [] else [(1, Octets.ofBytes bytes)], none⟩
    | some path =>
      let old := match s.read path with
        | .ok supply => if supply.isFile then supply.all else .empty
        | .error _ => .empty
      let start := size * number "seek" 0
      let keeps := converts "notrunc"
      let whole := World.overlay (if keeps then old else old.extract 0 start) start bytes
      match s.writeFile path whole with
      | .ok files => ⟨0, told, some files⟩
      | .error fault =>
        .ofComplaint 1 (name ++ ": failed to open " ++ quotedPath path ++ ": " ++ fault.words)
  match value? "if" with
  | none => .reading copy
  | some path =>
    match s.read path with
    | .ok supply => .done (copy supply)
    | .error fault =>
      .done (.ofComplaint 1 (name ++ ": failed to open " ++ quotedPath path ++ ": " ++ fault.words))

def runTruncate : Utility :=
  withOptions (Grammar.ofText "cs:" [("size", 's'), ("no-create", 'c')] true) 1 fun s name o =>
    match o.value? 's' with
    | none => misuse 1 name "you must specify either '--size' or '--reference'"
    | some spec =>
      let (sign, body) := match spec.toList with
        | '+' :: cs => ('+', String.ofList cs)
        | '-' :: cs => ('-', String.ofList cs)
        | _ => ('=', spec)
      match Extent.count? body with
      | none => .done (.ofComplaint 1 (name ++ ": Invalid number: " ++ quotedPath spec))
      | some n =>
        let deed : Deed := fun s path =>
          let old := match s.read path with
            | .ok supply => if supply.isFile then supply.all else .empty
            | .error _ => .empty
          let size := if sign = '+' then old.size + n else if sign = '-' then old.size - n else n
          let bytes := World.overlay (old.extract 0 size) size .empty
          match s.writeFile path bytes with
          | .ok files => .ok (files, [])
          | .error fault =>
            .error ("cannot open " ++ quotedPath path ++ " for writing: " ++ fault.words)
        .done (inTurn name deed s o.operands)

end CiHarness.Tool
