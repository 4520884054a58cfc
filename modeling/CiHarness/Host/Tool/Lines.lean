import CiHarness.Host.Format
import CiHarness.Host.Tool.Basic

/-!
# Programs over lines

Programs that show, cut, count, number and join lines of files or of the standard input. A line ends
with a line break, which only the last one may lack.
-/
namespace CiHarness.Tool

/-- What stands at the end of complaints about arguments. -/
def helpHint (name : String) : String := "\nTry '" ++ name ++ " --help' for more information."

/-- A complaint about arguments. -/
def misuse (status : UInt8) (name words : String) : Behaviour :=
  .done (.ofComplaint status (name ++ ": " ++ words ++ helpHint name))

/-! ## Showing -/

/-- A character as it is shown: control characters after a caret, and those beyond ASCII after
`M-`. -/
def shown (showsTabs : Bool) (c : Char) : String :=
  let plain (n : Nat) : String :=
    if n < 32 then "^" ++ (Char.ofNat (n + 64)).toString
    else if n = 127 then "^?" else (Char.ofNat n).toString
  if c = '\t' then if showsTabs then "^I" else "\t"
  else if c.toNat < 128 then plain c.toNat
  else "M-" ++ plain (c.toNat - 128)

def runCat : Utility :=
  withOptions (Grammar.ofText "AbeEnstTuv" [("show-all", 'A'), ("number-nonblank", 'b'),
    ("show-ends", 'E'), ("number", 'n'), ("squeeze-blank", 's'), ("show-tabs", 'T'),
    ("show-nonprinting", 'v')] true) 1 fun s name o =>
    let has (cs : List Char) : Bool := cs.any o.has
    let showsTabs := has ['A', 'T', 't']
    let showsControls := has ['A', 'e', 't', 'v']
    let showsEnds := has ['A', 'E', 'e']
    let numbersFull := o.has 'b'
    let numbers := o.has 'n' || numbersFull
    let change (text : String) : String :=
      if !(showsTabs || showsControls || showsEnds || numbers || o.has 's') then text
      else
        let (lines, isClosed) := Octets.lines text
        let step : String × Nat × Bool → String × Bool → String × Nat × Bool :=
          fun (out, n, wasEmpty) (line, isClosed) =>
            let isEmpty := line.isEmpty && isClosed
            if o.has 's' && isEmpty && wasEmpty then (out, n, true)
            else
              let counts := numbers && !(numbersFull && isEmpty)
              let front := if counts then padLeft 6 (toString (n + 1)) ++ "\t" else ""
              let body :=
                if showsControls then String.join (line.toList.map (shown showsTabs))
                else if showsTabs then line.replace "\t" "^I" else line
              (out ++ front ++ body ++ (if isClosed then if showsEnds then "$\n" else "\n" else ""),
                if counts then n + 1 else n, isEmpty)
        let last := lines.length - 1
        (lines.zipIdx.foldl (fun state (line, i) => step state (line, isClosed || i < last))
          ("", 0, false)).1
    filterFiles s name o.operands change

/-! ## The first and the last -/

/-- A part of a file: some bytes or lines. The count may be relative: for the front, all but the
last ones; for the back, from one of them on. -/
structure Extent where
  ofBytes : Bool
  count : Nat
  isRelative : Bool

namespace Extent

/-- A count with a multiplier perhaps. -/
def count? (s : String) : Option Nat :=
  let digits := s.toList.takeWhile Char.isDigit
  let factor? : Option Nat := match String.ofList (s.toList.drop digits.length) with
    | "" => some 1
    | "b" => some 512
    | "kB" => some 1000
    | "K" => some 1024
    | "k" => some 1024
    | "KiB" => some 1024
    | "MB" => some 1000000
    | "M" => some 1048576
    | "m" => some 1048576
    | "MiB" => some 1048576
    | "GB" => some 1000000000
    | "G" => some 1073741824
    | _ => none
  factor?.bind fun factor => (decimal? (String.ofList digits)).map (· * factor)

def front (e : Extent) (s : Supply) : ByteArray × Supply :=
  if e.isRelative then
    let text := s.text
    let rest := { s with position := s.position + s.remaining }
    if e.ofBytes then
      (Octets.toBytes (text.take (text.length - e.count)).toString, rest)
    else
      let (lines, isClosed) := Octets.lines text
      let kept := lines.take (lines.length - e.count)
      (Octets.toBytes (if kept.length = lines.length && !isClosed then text
        else Octets.unlines kept), rest)
  else if e.ofBytes then s.take e.count
  else s.takeLines e.count .empty

def back (e : Extent) (text : String) : String :=
  if e.ofBytes then
    (text.drop (if e.isRelative then e.count - 1 else text.length - e.count)).toString
  else
    let (lines, isClosed) := Octets.lines text
    let kept := lines.drop (if e.isRelative then e.count - 1 else lines.length - e.count)
    let all := Octets.unlines kept
    if isClosed || kept.isEmpty then all else (all.dropEnd 1).toString

/-- Arguments in which a number stands for an option, as options. -/
def modernized : List String → List String
  | [] => []
  | "--" :: rest => "--" :: rest
  | "-n" :: v :: rest => "-n" :: v :: modernized rest
  | "-c" :: v :: rest => "-c" :: v :: modernized rest
  | arg :: rest =>
    match arg.toList with
    | '-' :: d :: ds =>
      if d.isDigit && ds.all Char.isDigit then ("-n" ++ String.ofList (d :: ds)) :: modernized rest
      else arg :: modernized rest
    | _ => arg :: modernized rest

end Extent

/-- The options of both programs. -/
def extentGrammar : Grammar :=
  Grammar.ofText "c:n:qvzfFs:" [("bytes", 'c'), ("lines", 'n'), ("quiet", 'q'), ("silent", 'q'),
    ("verbose", 'v'), ("zero-terminated", 'z'), ("follow", 'f')] true

/-- The extent that options ask for; the sign that makes a count relative is another one at the
back. -/
def extentOf (name : String) (relativeSign : Char) (o : Options) : Except String Extent :=
  match o.last? ['c', 'n'] with
  | none => .ok ⟨false, 10, false⟩
  | some c =>
    let value := (o.value? c).getD ""
    let (isRelative, body) : Bool × String := match value.toList with
      | '+' :: ds => (relativeSign = '+', String.ofList ds)
      | '-' :: ds => (relativeSign = '-', String.ofList ds)
      | _ => (false, value)
    match Extent.count? body with
    | some n => .ok ⟨c = 'c', n, isRelative⟩
    | none => .error (name ++ ": invalid number of " ++ (if c = 'c' then "bytes" else "lines") ++
        ": '" ++ value ++ "'")

/-- Parts of several files, each after a line with its name if there are several. -/
def partsOf (name : String) (o : Options) (part : Supply → String) (contents : Contents) : Effect :=
  let names := o.has 'v' || (1 < contents.length && !o.has 'q')
  let (complaints, texts) := contents.foldl (fun (complaints, texts) (path, content) =>
    match content with
    | .error fault =>
      let words := if fault = .system .isADirectory then ": error reading '" else ": cannot open '"
      let tail := if fault = .system .isADirectory then "': " else "' for reading: "
      let texts := if names && fault = .system .isADirectory then
        ((if texts.isEmpty then "" else "\n") ++ "==> " ++ path ++ " <==\n") :: texts else texts
      ((name ++ words ++ path ++ tail ++ fault.words) :: complaints, texts)
    | .ok s =>
      let title := if path = "-" then "standard input" else path
      let front := if names then (if texts.isEmpty then "" else "\n") ++ "==> " ++ title ++ " <==\n"
        else ""
      (complaints, (front ++ part s) :: texts)) ([], [])
  .ofBoth (if complaints.isEmpty then 0 else 1) complaints.reverse (String.join texts.reverse)

def runHead : Utility := fun s name args =>
  withOptions extentGrammar 1 (fun s name o =>
    match extentOf name '-' o with
    | .error complaint => .done (.ofComplaint 1 complaint)
    | .ok e =>
      if (o.operands.isEmpty || o.operands = ["-"]) && !o.has 'v' then
        .peeking fun input =>
          let (bytes, rest) := e.front input
          (.ofText 0 (Octets.ofBytes bytes), rest)
      else overFiles s o.operands (partsOf name o fun s => Octets.ofBytes (e.front s).1)) s name
    (Extent.modernized args)

def runTail : Utility := fun s name args =>
  withOptions extentGrammar 1 (fun s name o =>
    match extentOf name '+' o with
    | .error complaint => .done (.ofComplaint 1 complaint)
    | .ok e => overFiles s o.operands (partsOf name o fun s => e.back s.text)) s name
    (Extent.modernized args)

/-! ## Turning around -/

def runTac : Utility :=
  withOptions (Grammar.ofText "brs:" [("separator", 's')] true) 1 fun s name o =>
    overFiles s o.operands fun contents =>
      let complaints := contents.filterMap fun (path, content) => match content with
        | .error fault =>
          some (name ++ ": failed to open '" ++ path ++ "' for reading: " ++ fault.words)
        | .ok _ => none
      let reversed (text : String) : String :=
        let (lines, isClosed) := Octets.lines text
        match lines.reverse with
        | [] => ""
        | last :: rest => last ++ (if isClosed then "\n" else "") ++ Octets.unlines rest
      .ofBoth (if complaints.isEmpty then 0 else 1) complaints
        (String.join (contents.filterMap fun (_, content) => content.toOption.map fun s =>
          reversed s.text))

def runRev : Utility :=
  withOptions (Grammar.ofText "" [] true) 1 fun s name o =>
    filterFiles s name o.operands fun text =>
      let (lines, isClosed) := Octets.lines text
      let turned := lines.map fun line => String.ofList line.toList.reverse
      let all := Octets.unlines turned
      if isClosed then all else (all.dropEnd 1).toString

/-! ## Counting -/

/-- The counts of a text: lines, words, bytes, and the length of the longest line. -/
structure Counts where
  lines : Nat
  words : Nat
  bytes : Nat
  longest : Nat

namespace Counts

def zero : Counts := ⟨0, 0, 0, 0⟩

def add (a b : Counts) : Counts :=
  ⟨a.lines + b.lines, a.words + b.words, a.bytes + b.bytes, max a.longest b.longest⟩

/-- The counts so far, whether a word is in progress, and the length of the line in progress. -/
structure Progress where
  counts : Counts
  inWord : Bool
  column : Nat

def step (p : Progress) (c : Char) : Progress :=
  let isBlank := c = ' ' || ('\t' ≤ c && c ≤ '\r')
  let column := if c = '\n' || c = '\r' || c = '\x0c' then 0
    else if c = '\t' then p.column + 8 - p.column % 8
    else if ' ' ≤ c && c ≤ '~' then p.column + 1 else p.column
  ⟨⟨if c = '\n' then p.counts.lines + 1 else p.counts.lines,
    if !isBlank && !p.inWord && '!' ≤ c then p.counts.words + 1 else p.counts.words,
    p.counts.bytes + 1, max p.counts.longest column⟩,
    if isBlank then false else p.inWord || '!' ≤ c, column⟩

def ofText (text : String) : Counts := (text.foldl step ⟨zero, false, 0⟩).counts

end Counts

def runWc : Utility :=
  withOptions (Grammar.ofText "clmwL" [("bytes", 'c'), ("chars", 'm'), ("lines", 'l'),
    ("words", 'w'), ("max-line-length", 'L')] true) 1 fun s name o =>
    let chosen (c : Char) : Bool := if o.given.isEmpty then c != 'L' && c != 'm' else o.has c
    let columns (k : Counts) : List Nat :=
      (if chosen 'l' then [k.lines] else []) ++ (if chosen 'w' then [k.words] else []) ++
        (if chosen 'm' then [k.bytes] else []) ++ (if chosen 'c' then [k.bytes] else []) ++
        (if chosen 'L' then [k.longest] else [])
    overFiles s o.operands fun contents =>
      let results := contents.map fun (path, content) => match content with
        | .ok supply =>
          (path, some (Counts.ofText supply.text), none, supply.isFile, supply.remaining)
        | .error fault =>
          let words := name ++ ": " ++ path ++ ": " ++ fault.words
          (path, if fault = FileFault.system .isADirectory then some Counts.zero
            else none, some words, false, 0)
      let found := results.filter fun (_, k, _) => k.isSome
      let digits (n : Nat) : Nat := (toString n).length
      let width :=
        if contents.length ≤ 1 && (columns .zero).length = 1 then 1
        else
          let total := (found.map fun (_, _, _, isFile, size) => if isFile then size else 0).foldl
            (· + ·) 0
          let least := if found.any fun (_, _, _, isFile, _) => !isFile then 7 else 1
          max least (digits total)
      let line (path : String) (k : Counts) : String :=
        " ".intercalate ((columns k).map fun n => padLeft width (toString n)) ++
          (if path = "" then "" else " " ++ path)
      let lines := found.filterMap fun (path, k, _) =>
        k.map (line (if o.operands.isEmpty then "" else path))
      let total := (found.filterMap fun (_, k, _) => k).foldl Counts.add .zero
      let lines := if 1 < contents.length then lines ++ [line "total" total] else lines
      let complaints := results.filterMap fun (_, _, complaint, _) => complaint
      .ofBoth (if complaints.isEmpty then 0 else 1) complaints (Octets.unlines lines)

def runNl : Utility :=
  withOptions (Grammar.ofText "b:d:f:h:i:l:n:ps:v:w:" [("body-numbering", 'b'),
    ("number-format", 'n'), ("number-separator", 's'), ("starting-line-number", 'v'),
    ("number-width", 'w'),
    ("line-increment", 'i')] true) 1 fun s name o =>
    let width := ((o.value? 'w').bind decimal?).getD 6
    let separator := (o.value? 's').getD "\t"
    let style := (o.value? 'b').getD "t"
    let layout := (o.value? 'n').getD "rn"
    let increment := ((o.value? 'i').bind integer?).getD 1
    let start := ((o.value? 'v').bind integer?).getD 1
    filterFiles s name o.operands fun text =>
      ((Octets.bareLines text).foldl (fun (out, n) line =>
        if style = "a" || (style = "t" && !line.isEmpty) then
          let number := toString n
          let shown := if layout = "ln" then padRight width number
            else if layout = "rz" then
              String.ofList (List.replicate (width - number.length) '0') ++ number
            else padLeft width number
          (out ++ shown ++ separator ++ line ++ "\n", n + increment)
        else
          (out ++ String.ofList (List.replicate (width + separator.length) ' ') ++ line ++ "\n", n))
        ("", start)).1

/-! ## Cutting and folding -/

/-- Positions from one to another, counted from one; without an end they go on. -/
structure Range where
  first : Nat
  last : Option Nat

def Range.holds (r : Range) (i : Nat) : Bool := r.first ≤ i && r.last.all (i ≤ ·)

/-- A list of positions with commas or blanks between them. -/
def ranges? (s : String) : Option (List Range) :=
  (s.splitToList fun c => c = ',' || c = ' ' || c = '\t').mapM fun part =>
    match Text.splitOnce '-' part with
    | none => (decimal? part).bind fun n => if n = 0 then none else some ⟨n, some n⟩
    | some (low, high) =>
      let low? := if low = "" then some 1 else decimal? low
      let high? := if high = "" then some none else (decimal? high).map some
      low?.bind fun a => high?.bind fun b =>
        if a = 0 || (low = "" && high = "") || b.any (· < a) then none else some ⟨a, b⟩

def runCut : Utility :=
  withOptions (Grammar.ofText "b:c:d:f:nsz" [("bytes", 'b'), ("characters", 'c'),
    ("delimiter", 'd'), ("fields", 'f'), ("only-delimited", 's'), ("complement", 'C'),
      ("output-delimiter", 'D')] true
    |> fun g => { g with plain := 'C' :: g.plain, valued := 'D' :: g.valued }) 1 fun s name o =>
    match o.last? ['b', 'c', 'f'] with
    | none => misuse 1 name "you must specify a list of bytes, characters, or fields"
    | some kind =>
      let list := (o.value? kind).getD ""
      match ranges? list with
      | none =>
        misuse 1 name (if kind = 'f' then "invalid field value '" ++ list ++ "'"
          else "invalid byte or character range '" ++ list ++ "'")
      | some rs =>
        let holds (i : Nat) : Bool := rs.any (·.holds i) != o.has 'C'
        let delimiter := (o.value? 'd').getD "\t"
        if 1 < delimiter.length then misuse 1 name "the delimiter must be a single character"
        else
          let mark := delimiter.toList.headD '\x00'
          let change (line : String) : Option String :=
            if kind = 'f' then
              if !line.toList.contains mark then if o.has 's' then none else some line
              else
                let fields := Text.split mark line
                let kept := fields.zipIdx.filterMap fun (field, i) =>
                  if holds (i + 1) then some field else none
                some (((o.value? 'D').getD mark.toString).intercalate kept)
            else
              let kept := line.toList.zipIdx.filter fun (_, i) => holds (i + 1)
              match o.value? 'D' with
              | none => some (String.ofList (kept.map (·.1)))
              | some joint =>
                some ((kept.foldl (fun (out, last) (c, i) =>
                  (out ++ (if last + 1 < i + 1 && !out.isEmpty then joint else "") ++ c.toString,
                    i + 1)) ("", 0)).1)
          filterFiles s name o.operands fun text =>
            Octets.unlines ((Octets.bareLines text).filterMap change)

def runFold : Utility :=
  withOptions (Grammar.ofText "bsw:" [("width", 'w'), ("spaces", 's'), ("bytes", 'b')] true) 1
    fun s name o =>
      let width := ((o.value? 'w').bind decimal?).getD 80
      let rec cut : Nat → List Char → List String
        | 0, cs => [String.ofList cs]
        | n + 1, cs =>
          if cs.length ≤ width || width = 0 then [String.ofList cs]
          else
            let head := cs.take width
            let kept := if o.has 's' && head.contains ' '
              then (head.reverse.dropWhile (· != ' ')).reverse else head
            String.ofList kept :: cut n (cs.drop kept.length)
      filterFiles s name o.operands fun text =>
        let (lines, isClosed) := Octets.lines text
        let all := Octets.unlines (lines.flatMap fun line => cut line.length line.toList)
        if isClosed then all else (all.dropEnd 1).toString

def runExpand : Utility :=
  withOptions (Grammar.ofText "it:" [("tabs", 't'), ("initial", 'i')] true) 1 fun s name o =>
    let width := max 1 (((o.value? 't').bind decimal?).getD 8)
    filterFiles s name o.operands fun text =>
      (text.foldl (fun (out, column) c =>
        if c = '\t' then
          let n := width - column % width
          (out ++ String.ofList (List.replicate n ' '), column + n)
        else (out.push c, if c = '\n' then 0 else column + 1)) ("", 0)).1

/-- The blanks between two columns: tabs as far as they reach, and spaces after them. -/
def asTabs (width start stop : Nat) : String :=
  if stop ≤ start + 1 then String.ofList (List.replicate (stop - start) ' ')
  else
    let tabs := stop / width - start / width
    let left := if tabs = 0 then stop - start else stop % width
    String.ofList (List.replicate tabs '\t' ++ List.replicate left ' ')

/-- A line in which blanks that reach a tab stop are tabs: only those in front, or all. -/
def withTabs (width : Nat) (everywhere : Bool) : Nat → Nat → List Char → List Char
  | 0, _, cs => cs
  | _ + 1, _, [] => []
  | n + 1, column, c :: cs =>
    if c = ' ' || c = '\t' then
      let run := (c :: cs).takeWhile fun c => c = ' ' || c = '\t'
      let stop := run.foldl (fun k c => if c = '\t' then k + (width - k % width) else k + 1) column
      let blanks := if run = ['\t'] then "\t" else asTabs width column stop
      let rest := (c :: cs).drop run.length
      blanks.toList ++ if everywhere then withTabs width everywhere n stop rest else rest
    else if everywhere then c :: withTabs width everywhere n (column + 1) cs
    else c :: cs

def runUnexpand : Utility :=
  withOptions (Grammar.ofText "at:" [("tabs", 't'), ("all", 'a'), ("first-only", 'f')] true) 1 fun s
    name o =>
    let width := max 1 (((o.value? 't').bind decimal?).getD 8)
    let everywhere := (o.has 'a' || o.has 't') && !o.has 'f'
    filterFiles s name o.operands fun text =>
      String.ofList ((Octets.lineChars text.toList).flatMap fun line =>
        withTabs width everywhere (line.length + 1) 0 line)

/-! ## Joining -/

/-- Lines of several texts side by side, with marks between them that are used in turn. -/
def sideBySide (marks : List Char) : Nat → List (List String) → List String
  | 0, _ => []
  | n + 1, files =>
    if files.all List.isEmpty then []
    else
      let heads := files.map fun lines => lines.headD ""
      let line := (heads.zipIdx.foldl (fun out (head, i) =>
        out ++ (if i = 0 then "" else
          match marks[(i - 1) % max 1 marks.length]? with
          | some c => if c = '\x00' then "" else c.toString
          | none => "") ++ head) "")
      line :: sideBySide marks n (files.map List.tail)

def runPaste : Utility :=
  withOptions (Grammar.ofText "d:sz" [("delimiters", 'd'), ("serial", 's')] true) 1 fun s name o =>
    let marks := match o.value? 'd' with
      | none => ['\t']
      | some d => unescape d.toList
    overFiles s o.operands fun contents =>
      let complaints := contents.filterMap fun (path, content) => match content with
        | .error fault => some (name ++ ": " ++ path ++ ": " ++ fault.words)
        | .ok _ => none
      if o.has 's' then
        let lines := contents.filterMap fun (_, content) => content.toOption.map fun c =>
          (sideBySide marks 1 ((Octets.bareLines c.text).map ([·]))).headD ""
        .ofBoth (if complaints.isEmpty then 0 else 1) complaints (Octets.unlines lines)
      else if !complaints.isEmpty then .ofBoth 1 complaints ""
      else
        -- the standard input gives its lines in turn to all who read it
        let inputs := (contents.filter fun (path, _) => isInput path).length
        let all := contents.filterMap fun (path, content) => content.toOption.map fun c =>
          (path, Octets.bareLines c.text)
        let shared := (all.find? fun (path, _) => isInput path).elim [] (·.2)
        let files := (all.foldl (fun (files, k) (path, lines) =>
          if isInput path then
            let mine := shared.zipIdx.filterMap fun (line, i) =>
              if i % max 1 inputs = k then some line else none
            (mine :: files, k + 1)
          else (lines :: files, k)) ([], 0)).1.reverse
        let most := files.foldl (fun n lines => max n lines.length) 0
        .ofText 0 (Octets.unlines (sideBySide marks most files))
where
  unescape : List Char → List Char
    | '\\' :: 'n' :: cs => '\n' :: unescape cs
    | '\\' :: 't' :: cs => '\t' :: unescape cs
    | '\\' :: '0' :: cs => '\x00' :: unescape cs
    | '\\' :: c :: cs => c :: unescape cs
    | c :: cs => c :: unescape cs
    | [] => []

/-- The program that writes its input to files and on. -/
def runTee : Utility :=
  withOptions (Grammar.ofText "aip" [("append", 'a'), ("ignore-interrupts", 'i')] true) 1 fun s name
    o =>
    .reading fun input =>
      let text := input.text
      let bytes := Octets.toBytes text
      let result := o.operands.foldl (fun (files, complaints, streams) path =>
        if path = "/dev/stderr" || path = "/dev/fd/2" then (files, complaints, (2, text) :: streams)
        else if path = "/dev/stdout" || path = "/dev/fd/1" then
          (files, complaints, (1, text) :: streams)
        else
          let s : Surroundings := { s with files := files }
          let old := if o.has 'a' then match s.read path with
            | .ok supply => if supply.isFile then supply.all else .empty
            | .error _ => .empty
          else .empty
          match s.writeFile path (old ++ bytes) with
          | .ok files => (files, complaints, streams)
          | .error fault =>
            (files, (name ++ ": " ++ path ++ ": " ++ fault.words) :: complaints, streams))
        (s.files, [], [])
      let (files, complaints, streams) := result
      let complaints := complaints.reverse
      ⟨if complaints.isEmpty then 0 else 1,
        (if complaints.isEmpty then [] else [(2, Octets.unlines complaints)]) ++
          (if text.isEmpty then [] else [(1, text)]) ++ streams.reverse,
        if o.operands.isEmpty then none else some files⟩

end CiHarness.Tool
