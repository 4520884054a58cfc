import CiHarness.Host.Regex
import CiHarness.Host.Glob
import CiHarness.Host.Tool.Files

/-!
# Searching lines

The lines of files that match one of some expressions are shown, counted or only noticed. The status
says whether any line was selected.
-/
namespace CiHarness.Tool

/-- How lines are searched and shown. -/
structure Search where
  regex : Regex
  options : Options
  showsNames : Bool
  /-- The number of selected lines after which a file is left. -/
  limit : Option Nat
  before : Nat
  after : Nat

namespace Search

/-- Whether a line is selected. -/
def selects (s : Search) (line : String) : Bool := s.regex.occursIn line != s.options.has 'v'

/-- The lines of a text, each with its number and whether it is selected, up to the limit. -/
def marked (s : Search) (text : String) : List (Nat × String × Bool) :=
  let all := (Octets.bareLines text).zipIdx.map fun (line, i) => (i + 1, line, s.selects line)
  match s.limit with
  | none => all
  | some n => go n all
where
  go : Nat → List (Nat × String × Bool) → List (Nat × String × Bool)
    | 0, rest => rest.takeWhile fun (_, _, isSelected) => !isSelected
    | n + 1, rest =>
      let front := rest.takeWhile fun (_, _, isSelected) => !isSelected
      match rest.drop front.length with
      | [] => front
      | hit :: rest => front ++ hit :: go n rest

/-- What stands before a line: the name of its file, its number, and how many bytes stand before
it. -/
def lead (s : Search) (path : String) (number offset : Nat) (mark : String) : String :=
  (if s.showsNames then path ++ mark else "") ++
    (if s.options.has 'n' then toString number ++ mark else "") ++
    (if s.options.has 'b' then toString offset ++ mark else "")

/-- How many bytes stand before each line. -/
def offsets (text : String) : Array Nat :=
  ((Octets.bareLines text).foldl (fun (found, n) line => (found.push n, n + line.length + 1))
    ((#[] : Array Nat), 0)).1

/-- The selected lines of a file, with their neighbours if those are shown. -/
def shownLines (s : Search) (path : String) (text : String) : List String :=
  let all := s.marked text
  let starts := if s.options.has 'b' then offsets text else #[]
  let offset (number : Nat) : Nat := starts.getD (number - 1) 0
  if s.options.has 'o' then
    if s.options.has 'v' then []
    else
      all.flatMap fun (number, line, isSelected) =>
        if isSelected then
          let t := line.toList.toArray
          ((s.regex.all t).filter fun f => f.start != f.stop).map fun f =>
            s.lead path number (offset number + f.start) ":" ++ f.text t
        else []
  else if s.before = 0 && s.after = 0 then
    all.filterMap fun (number, line, isSelected) =>
      if isSelected then some (s.lead path number (offset number) ":" ++ line) else none
  else
    let hits := (all.filter fun (_, _, isSelected) => isSelected).map (·.1)
    let isNear (n : Nat) : Bool := hits.any fun h => h ≤ n + s.before && n ≤ h + s.after
    let last := hits.getLastD 0
    let kept := (all.filter fun (n, _, _) => isNear n && n ≤ last + s.after)
    (kept.foldl (fun (out, previous) (n, line, isSelected) =>
      let gap := if previous != 0 && previous + 1 < n then ["--"] else []
      (out ++ gap ++ [s.lead path n (offset n) (if isSelected then ":" else "-") ++ line], n))
        ([], 0)).1

/-- The result for one file: whether a line was selected, and the text that is shown. -/
def file (s : Search) (path text : String) : Bool × String :=
  let isSilent := s.options.has 'q' || s.options.has 'l' || s.options.has 'L' || s.options.has 'c'
  let count := (s.marked text).countP fun (_, _, isSelected) => isSelected
  let found := 0 < count
  if s.options.has 'q' then (found, "")
  else if s.options.has 'c' then
    (found, (if s.showsNames then path ++ ":" else "") ++ toString count ++ "\n")
  else if s.options.has 'l' then (found, if found then path ++ "\n" else "")
  else if s.options.has 'L' then (!found, if found then "" else path ++ "\n")
  else if !isSilent && !s.options.has 'a' && text.toList.contains '\x00' then
    (found, if found then "Binary file " ++ path ++ " matches\n" else "")
  else (found, Octets.unlines (s.shownLines path text))

end Search

/-- The files below a directory, each with its path; some directories and files are passed over by
their names. -/
def filesBelow (files : FileTree) (entersDirectory looksInto : String → Bool) :
    Nat → String → Place → List String
  | 0, _, _ => []
  | n + 1, path, here =>
    (files.children here).flatMap fun name =>
      let place := here ++ [name]
      let path := if path = "" then Octets.ofText name
        else if path.endsWith "/" then path ++ Octets.ofText name
          else path ++ "/" ++ Octets.ofText name
      match files.entry? place with
      | some entry =>
        if entry.isDirectory then
          if entersDirectory (Octets.ofText name) then
            filesBelow files entersDirectory looksInto n path place
          else []
        else if entry.isRegular && looksInto (Octets.ofText name) then [path] else []
      | none => []

/-- The expression of some patterns, each on a line. -/
def searchRegex (kind : Char) (ignoresCase wholeWords wholeLines : Bool) (patterns : List String) :
    Except String Regex := do
  let d : Regex.Dialect := ⟨kind = 'E' || kind = 'P', ignoresCase, false, kind = 'P', false⟩
  let one (pattern : String) : Except String Regex :=
    if kind = 'F' then .ok (Regex.ofPlain d pattern)
    else if kind = 'P' then
      Regex.ofText d ((pattern.replace "\\d" "[0-9]").replace "\\D" "[^0-9]")
    else Regex.ofText d pattern
  let all ← (patterns.flatMap (Text.split '\n')).mapM one
  let r := match all with
    | [] => Regex.one fun _ => false
    | r :: rest => rest.foldl Regex.either r
  return if wholeLines then .seq (.edge .textStart) (.seq r (.edge .textEnd))
    else if wholeWords then .seq (.edge .freeStart) (.seq r (.edge .freeEnd))
    else r

/-- A hyphen with a number asks for so many neighbours of each line. -/
def withContext (args : List String) : List String :=
  args.map fun arg =>
    let digits := arg.drop 1
    if arg.startsWith "-" && !digits.isEmpty && digits.all (·.isDigit) then "-C" ++ digits.toString
      else arg

def runGrep (kind : Char) : Utility := fun s name args =>
  withOptions (Grammar.ofText "EFGPe:f:ivwxcl-LnoqsHhrRm:A:B:C:abzIyUTu<:>:/:"
    [("extended-regexp", 'E'), ("fixed-strings", 'F'), ("basic-regexp", 'G'), ("perl-regexp", 'P'),
      ("regexp", 'e'), ("file", 'f'),
    ("ignore-case", 'i'), ("invert-match", 'v'), ("word-regexp", 'w'), ("line-regexp", 'x'),
    ("count", 'c'), ("files-with-matches", 'l'), ("files-without-match", 'L'), ("line-number", 'n'),
    ("only-matching", 'o'), ("quiet", 'q'), ("silent", 'q'), ("no-messages", 's'),
    ("with-filename", 'H'),
    ("no-filename", 'h'), ("recursive", 'r'), ("max-count", 'm'), ("after-context", 'A'),
    ("before-context", 'B'), ("context", 'C'), ("text", 'a'), ("color", '-'), ("colour", '-'),
    ("include", '<'),
    ("exclude", '>'), ("exclude-dir", '/'), ("byte-offset", 'b'), ("line-buffered", '-'),
    ("binary", 'U'),
    ("dereference-recursive", 'R'), ("no-ignore-case", '-'), ("initial-tab", 'T')] true) 2
    (fun s name o =>
    let kind := (o.last? ['E', 'F', 'G', 'P']).getD kind
    let given := o.given.filterMap fun (c, v) => if c = 'e' then some v else none
    let fromFiles := o.given.filterMap fun (c, v) =>
      if c = 'f' then some ((s.read v).toOption.elim [] fun t => Octets.bareLines t.text) else none
    let hasPatterns := !(given.isEmpty && fromFiles.isEmpty)
    match hasPatterns, o.operands with
    | false, [] =>
      .done (.ofComplaint 2 ("Usage: " ++ name ++ " [OPTION]... PATTERNS [FILE]...\nTry '" ++
        name ++ " --help' for more information."))
    | _, operands =>
      let patterns := if hasPatterns then given ++ fromFiles.flatten else [operands.headD ""]
      let operands := if hasPatterns then operands else operands.tail
      match searchRegex kind (o.has 'i' || o.has 'y') (o.has 'w') (o.has 'x') patterns with
      | .error words => .done (.ofComplaint 2 (name ++ ": " ++ words))
      | .ok regex =>
        let recursive := o.has 'r' || o.has 'R'
        let isNamed (c : Char) (name : String) : Bool := o.given.any fun (d, pattern) =>
          c = d && Glob.isMatch false (Glob.active pattern) name
        let looksInto (name : String) : Bool :=
          !isNamed '>' name && (!o.has '<' || isNamed '<' name)
        let paths := if recursive then
            (if operands.isEmpty then [""] else operands).flatMap fun path =>
              match s.find (if path = "" then "." else path) with
              | .ok (here, entry) =>
                if entry.isDirectory then filesBelow s.files (!isNamed '/' ·) looksInto 64 path here
                else if looksInto (lastName path) then [path] else []
              | .error _ => [path]
          else operands
        let number (c : Char) : Option Nat := (o.value? c).bind decimal?
        let context := (number 'C').getD 0
        let search : Search :=
          ⟨regex, o, (recursive || o.has 'H' || 1 < paths.length) && !o.has 'h',
          number 'm', (number 'B').getD context, (number 'A').getD context⟩
        if recursive && paths.isEmpty then .done (.ofStatus 1)
        else
          overFiles s paths fun contents =>
            let results := contents.map fun (path, content) =>
              let title := if path = "-" then "(standard input)" else path
              match content with
              | .ok supply => (some (search.file title supply.text), none)
              | .error fault => (none, some (name ++ ": " ++ path ++ ": " ++ fault.words))
            let found := results.any fun (r, _) => r.any (·.1)
            let complaints := results.filterMap (·.2)
            let shown := if o.has 's' then [] else complaints
            let status : UInt8 := if found && (complaints.isEmpty || o.has 'q') then 0
              else if complaints.isEmpty then 1 else 2
            .ofBoth status shown (String.join (results.filterMap fun (r, _) => r.map (·.2))))
    s name (withContext args)

end CiHarness.Tool
