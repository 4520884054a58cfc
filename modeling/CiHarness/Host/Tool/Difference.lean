import CiHarness.Host.Alignment
import CiHarness.Host.Tool.Files

/-!
# The program that tells differences

Two files are compared line by line. The blocks of lines that differ are shown one after another, or
gathered into hunks with some lines around them; or it is only told that the files differ.
Directories are compared name by name.
-/
namespace CiHarness.Tool

/-- How differences are shown. -/
inductive DifferenceForm where
  | plain
  | brief
  | unified (context : Nat)
  | context (context : Nat)
  deriving DecidableEq

/-- How files are compared. -/
structure Comparing where
  form : DifferenceForm
  ignoresCase : Bool
  ignoresBlanks : Bool
  ignoresBlankCounts : Bool
  ignoresBlankLines : Bool
  tellsSame : Bool
  goesDeep : Bool
  takesMissing : Bool
  labels : List String
  /-- The options as they are repeated in headings. -/
  written : String

/-- One of the files: its path, its time and its lines, and whether the last one has a line
break. -/
structure Compared where
  path : String
  time : Nat
  text : String

namespace Compared

def lines (f : Compared) : Array String := (Octets.bareLines f.text).toArray

/-- A line as it is written, with a note if it is the last one and has no line break. -/
def line (f : Compared) (all : Array String) (mark : String) (i : Nat) : String :=
  mark ++ all.getD i "" ++ "\n" ++
    if i + 1 = all.size && !f.text.endsWith "\n" then "\\ No newline at end of file\n" else ""

/-- Some lines. -/
def block (f : Compared) (all : Array String) (mark : String) (start count : Nat) : String :=
  String.join ((List.range' start count).map (f.line all mark))

end Compared

namespace Comparing

/-- A line as it is compared. -/
def key (how : Comparing) (line : String) : String :=
  let line := if how.ignoresCase then line.map Char.toLower else line
  let isBlank (c : Char) : Bool := c = ' ' || ('\t' ≤ c && c ≤ '\r')
  if how.ignoresBlanks then String.ofList (line.toList.filter (!isBlank ·))
  else if how.ignoresBlankCounts then
    let rec squeeze : List Char → List Char
      | [] => []
      | c :: cs =>
        if isBlank c then
          match squeeze cs with
          | ' ' :: rest => ' ' :: rest
          | rest => ' ' :: rest
        else c :: squeeze cs
    String.ofList ((squeeze line.toList).reverse.dropWhile (· = ' ')).reverse
  else line

/-- The lines of both files as numbers, the same ones for lines that count as equal. A last line
without a line break differs from one with it. -/
def numbered (how : Comparing) (a b : Compared) : Array Nat × Array Nat :=
  let keys (f : Compared) : List String :=
    let all := (Octets.bareLines f.text).map how.key
    if f.text.endsWith "\n" || f.text.isEmpty || how.ignoresBlanks || how.ignoresBlankCounts then
      all
    else all.dropLast ++ [all.getLastD "" ++ "\n"]
  let (left, right) := (keys a, keys b)
  let sorted := ((left ++ right).mergeSort).eraseReps.toArray
  let number (key : String) : Nat :=
    let rec search : Nat → Nat → Nat → Nat
      | 0, low, _ => low
      | n + 1, low, high =>
        if high ≤ low + 1 then low
        else
          let mid := (low + high) / 2
          if sorted.getD mid "" ≤ key then search n mid high else search n low mid
    search 64 0 sorted.size
  ((left.map number).toArray, (right.map number).toArray)

/-- How many equal lines are shown around changes. -/
def around (how : Comparing) : Nat := match how.form with
  | .unified n => n
  | .context n => n
  | _ => 0

/-- The changes between two files that count. -/
def changes (how : Comparing) (a b : Compared) : List Change :=
  let (left, right) := how.numbered a b
  let all := changesOf how.around left right
  if how.ignoresBlankLines then
    let isEmpty (lines : Array String) (start count : Nat) : Bool :=
      (List.range' start count).all fun i => lines.getD i "" = ""
    all.filter fun c =>
      !(isEmpty a.lines c.before c.deleted && isEmpty b.lines c.after c.inserted)
  else all

/-! ## Showing -/

/-- The numbers of some lines; of no lines, the number of the one before. -/
def numbers (start count : Nat) : String :=
  if count < 2 then toString (start + count) else toString (start + 1) ++ "," ++
    toString (start + count)

/-- One change. -/
def plainText (a b : Compared) (left right : Array String) (c : Change) : String :=
  let letter := if c.deleted = 0 then "a" else if c.inserted = 0 then "d" else "c"
  numbers c.before c.deleted ++ letter ++ numbers c.after c.inserted ++ "\n" ++
    a.block left "< " c.before c.deleted ++
    (if letter = "c" then "---\n" else "") ++
    b.block right "> " c.after c.inserted

/-- Changes in hunks: those with few equal lines between them are in one. -/
def hunks (context : Nat) : List Change → List (List Change)
  | [] => []
  | c :: rest =>
    match hunks context rest with
    | (next :: more) :: others =>
      if next.before - (c.before + c.deleted) < 2 * context + 1 then (c :: next :: more) :: others
      else [c] :: (next :: more) :: others
    | others => [c] :: others

/-- The lines that a hunk shows of both files: from where, and how many. -/
def extent (context leftSize rightSize : Nat) (hunk : List Change) : (Nat × Nat) × (Nat × Nat) :=
  match hunk.head?, hunk.getLast? with
  | some first, some last =>
    let start := first.before - context
    let stop := min leftSize (last.before + last.deleted + context)
    let otherStart := first.after - context
    let otherStop := min rightSize (last.after + last.inserted + context)
    ((start, stop - start), (otherStart, otherStop - otherStart))
  | _, _ => ((0, 0), (0, 0))

/-- A hunk in one column. -/
def unifiedText (context : Nat) (a b : Compared) (left right : Array String)
    (hunk : List Change) : String :=
  let ((start, count), (otherStart, otherCount)) := extent context left.size right.size hunk
  let range (start count : Nat) : String :=
    if count = 0 then toString start ++ ",0"
    else if count = 1 then toString (start + 1)
    else toString (start + 1) ++ "," ++ toString count
  let (body, last) := hunk.foldl (fun (body, i) c =>
    (body ++ a.block left " " i (c.before - i) ++ a.block left "-" c.before c.deleted ++
      b.block right "+" c.after c.inserted, c.before + c.deleted)) ("", start)
  "@@ -" ++ range start count ++ " +" ++ range otherStart otherCount ++ " @@\n" ++ body ++
    a.block left " " last (start + count - last)

/-- One file's side of a hunk. -/
def sideText (f : Compared) (all : Array String) (start count : Nat) (mark : String)
    (changed : List (Nat × Nat × Bool)) : String :=
  if changed.all fun (_, n, _) => n = 0 then ""
  else
    let (body, last) := changed.foldl (fun (body, i) (place, n, isBoth) =>
      (body ++ f.block all "  " i (place - i) ++
        f.block all (if isBoth then "! " else mark) place n, place + n)) ("", start)
    body ++ f.block all "  " last (start + count - last)

/-- A hunk in two parts. -/
def contextText (context : Nat) (a b : Compared) (left right : Array String)
    (hunk : List Change) : String :=
  let ((start, count), (otherStart, otherCount)) := extent context left.size right.size hunk
  let isBoth (c : Change) : Bool := c.deleted != 0 && c.inserted != 0
  "***************\n*** " ++ numbers start count ++ " ****\n" ++
    sideText a left start count "- " (hunk.map fun c => (c.before, c.deleted, isBoth c)) ++
    "--- " ++ numbers otherStart otherCount ++ " ----\n" ++
    sideText b right otherStart otherCount "+ " (hunk.map fun c => (c.after, c.inserted, isBoth c))

/-- The name of a file above hunks. -/
def heading (how : Comparing) (i : Nat) (f : Compared) : String :=
  match how.labels[i]? with
  | some label => label
  | none => f.path ++ "\t" ++ (Moment.ofClock f.time).tell true "%Y-%m-%d %H:%M:%S.%N %z"

/-- What is told about two files, whether they differ, and whether the lines are shown. -/
def tell (how : Comparing) (a b : Compared) : String × Bool × Bool :=
  let changed := if a.text = b.text then [] else how.changes a b
  if changed.isEmpty then
    (if how.tellsSame then "Files " ++ a.path ++ " and " ++ b.path ++ " are identical\n"
      else "", false, false)
  else if how.form = .brief then
    ("Files " ++ a.path ++ " and " ++ b.path ++ " differ\n", true, false)
  else if a.text.contains '\x00' || b.text.contains '\x00' then
    ("Binary files " ++ a.path ++ " and " ++ b.path ++ " differ\n", true, false)
  else
    let (left, right) := (a.lines, b.lines)
    (match how.form with
      | .unified n =>
        "--- " ++ how.heading 0 a ++ "\n+++ " ++ how.heading 1 b ++ "\n" ++
          String.join ((hunks n changed).map (unifiedText n a b left right))
      | .context n =>
        "*** " ++ how.heading 0 a ++ "\n--- " ++ how.heading 1 b ++ "\n" ++
          String.join ((hunks n changed).map (contextText n a b left right))
      | _ => String.join (changed.map (plainText a b left right)), true, true)

/-! ## Directories -/

/-- What is told so far: a text, complaints and the status. -/
structure Told where
  text : String
  complaints : List String
  status : UInt8

/-- Two paths are compared. The first argument bounds the depth of directories; the second tells
whether the paths lie in directories that are compared. -/
def paths (how : Comparing) (s : Surroundings) (name : String) (input : Supply) :
    Nat → Bool → String → String → Told
  | 0, _, _, _ => ⟨"", [], 0⟩
  | n + 1, isInside, left, right =>
    let found (path : String) : Except FileFault (Option Entry) :=
      if isInput path then .ok none
      else match s.find path with
        | .ok (_, e) => .ok (some e)
        | .error e => .error (.system e)
    let trouble (path : String) (fault : FileFault) : Told :=
      ⟨"", [name ++ ": " ++ path ++ ": " ++ fault.words], 2⟩
    let file (path : String) (e : Option Entry) : Except FileFault Compared :=
      match e with
      | none => .ok ⟨path, s.clock, input.text⟩
      | some e => (s.read path).map fun supply => ⟨path, e.time, supply.text⟩
    let both (a b : Except FileFault Compared) : Told :=
      match a, b with
      | .ok a, .ok b =>
        let (text, differ, isShown) := how.tell a b
        let title := if isInside && isShown then name ++ how.written ++ " " ++ left ++ " " ++
          right ++ "\n" else ""
        ⟨title ++ text, [], if differ then 1 else 0⟩
      | .error fault, .ok _ => trouble left fault
      | .ok _, .error fault => trouble right fault
      | .error f, .error g => ⟨"", (trouble left f).complaints ++ (trouble right g).complaints, 2⟩
    let isDirectory (e : Option Entry) : Bool := e.any Entry.isDirectory
    let names (path : String) : List String :=
      ((s.find path).toOption.elim [] fun (here, _) => s.files.children here).map Octets.ofText
    /- All names of two directories, of which one may be missing. -/
    let eachName : Told :=
      let (lefts, rights) := (names left, names right)
      (((lefts ++ rights).mergeSort).eraseReps).foldl (fun told child =>
        let one : Told :=
          if (lefts.contains child && rights.contains child) || how.takesMissing then
            paths how s name input n true (below left child) (below right child)
          else
            ⟨"Only in " ++ (if lefts.contains child then left else right) ++ ": " ++ child ++ "\n",
              [], 1⟩
        ⟨told.text ++ one.text, told.complaints ++ one.complaints, max told.status one.status⟩)
          ⟨"", [], 0⟩
    let empty (path : String) : Except FileFault Compared := .ok ⟨path, 0, ""⟩
    match found left, found right with
    | .ok a, .ok b =>
      if isDirectory a && isDirectory b then
        if isInside && !how.goesDeep then
          ⟨"Common subdirectories: " ++ left ++ " and " ++ right ++ "\n", [], 0⟩
        else eachName
      else if isInside && (isDirectory a != isDirectory b) then
        let kind (e : Option Entry) : String := if isDirectory e then "directory" else
          if e.any fun e => e.size = 0 then "regular empty file" else "regular file"
        ⟨"File " ++ left ++ " is a " ++ kind a ++ " while file " ++ right ++ " is a " ++ kind b ++
          "\n", [], 1⟩
      else if isDirectory a then
        paths how s name input n isInside (below left (lastName right)) right
      else if isDirectory b then
        paths how s name input n isInside left (below right (lastName left))
      else both (file left a) (file right b)
    | .ok a, .error fault =>
      if !how.takesMissing then trouble right fault
      else if isDirectory a then eachName else both (file left a) (empty right)
    | .error fault, .ok b =>
      if !how.takesMissing then trouble left fault
      else if isDirectory b then eachName else both (empty left) (file right b)
    | .error f, .error g => ⟨"", (trouble left f).complaints ++ (trouble right g).complaints, 2⟩

end Comparing

/-- An option whose value is a number of lines, if it has one. -/
def contextOption (o : Options) (plain valued : Char) : Option Nat :=
  match o.value? valued with
  | some text => decimal? text
  | none => if o.has plain then some 3 else none

def runDiff : Utility := fun s name args =>
  let spelled := args.map fun arg =>
    if arg = "--unified" then "-u" else if arg = "--context" then "-c" else arg
  let g := Grammar.ofText "qsuU:cC:iwbBrNL:aEZtd" [("brief", 'q'), ("report-identical-files", 's'),
    ("unified", 'U'), ("context", 'C'), ("ignore-case", 'i'), ("ignore-all-space", 'w'),
    ("ignore-space-change", 'b'), ("ignore-blank-lines", 'B'), ("recursive", 'r'),
    ("new-file", 'N'),
    ("label", 'L'), ("text", 'a'), ("normal", 'd'), ("minimal", 'd'), ("color", 'd'),
    ("strip-trailing-cr", 'd'), ("ignore-trailing-space", 'Z'), ("expand-tabs", 't')] true
  withOptions g 2 (fun s name o =>
    let form : DifferenceForm :=
      if o.has 'q' then .brief
      else match contextOption o 'u' 'U', contextOption o 'c' 'C' with
        | some n, _ => .unified n
        | none, some n => .context n
        | none, none => .plain
    let how : Comparing :=
      ⟨form, o.has 'i', o.has 'w', o.has 'b', o.has 'B', o.has 's', o.has 'r', o.has 'N',
        (o.given.filter (·.1 = 'L')).map (·.2),
        String.join ((args.filter fun arg => arg.startsWith "-" && arg != "-" && arg != "--").map
          (" " ++ ·))⟩
    match o.operands with
    | [] => misuse 2 name "missing operand after 'diff'"
    | [path] => misuse 2 name ("missing operand after " ++ quotedPath path)
    | [left, right] =>
      let told (input : Supply) : Effect :=
        let told := how.paths s name input 100 false left right
        .ofBoth told.status told.complaints told.text
      if isInput left || isInput right then .reading told else .done (told (.ofBytes .empty))
    | _ :: _ :: extra :: _ => misuse 2 name ("extra operand " ++ quotedPath extra)) s name spelled

end CiHarness.Tool
