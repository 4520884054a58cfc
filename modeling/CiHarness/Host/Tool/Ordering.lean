import CiHarness.Host.Tool.Lines
import CiHarness.Host.Tool.Writing

/-!
# Programs that order and compare lines

Lines are sorted by keys, which are parts of them; lines that come after one another and are equal
are counted or left out; and sorted files are compared line by line.
-/
namespace CiHarness.Tool

/-! ## Keys -/

/-- How two texts are compared. -/
structure Collation where
  isNumeric : Bool
  isGeneral : Bool
  isHuman : Bool
  isVersion : Bool
  isMonth : Bool
  ignoresCase : Bool
  seesWordsOnly : Bool
  seesPrintableOnly : Bool
  isReversed : Bool
  deriving DecidableEq

namespace Collation

def plain : Collation := ⟨false, false, false, false, false, false, false, false, false⟩

/-- A letter of an option changes how texts are compared. -/
def withLetter (k : Collation) (c : Char) : Collation :=
  match c with
  | 'n' => { k with isNumeric := true }
  | 'g' => { k with isGeneral := true }
  | 'h' => { k with isHuman := true }
  | 'V' => { k with isVersion := true }
  | 'M' => { k with isMonth := true }
  | 'f' => { k with ignoresCase := true }
  | 'd' => { k with seesWordsOnly := true }
  | 'i' => { k with seesPrintableOnly := true }
  | 'r' => { k with isReversed := true }
  | _ => k

def isBlank (c : Char) : Bool := c = ' ' || c = '\t'

/-- The number at the front of a text; a text without one counts as zero. -/
def number (s : String) : Written :=
  let cs := s.toList.dropWhile isBlank
  let (negative, cs) := match cs with
    | '-' :: cs => (true, cs)
    | cs => (false, cs)
  let whole := cs.takeWhile Char.isDigit
  let fraction := match cs.drop whole.length with
    | '.' :: rest => rest.takeWhile Char.isDigit
    | _ => []
  let n : Int := (whole ++ fraction).foldl (fun n c => 10 * n + (c.toNat - 48)) 0
  ⟨if negative then -n else n, fraction.length⟩

/-- The same with an exponent perhaps; a text without a number comes before all numbers. -/
def general (s : String) : Option Written :=
  let cs := s.toList.dropWhile isBlank
  (List.range (cs.length + 1)).reverse.findSome? fun n => Written.read? (String.ofList (cs.take n))

/-- The order of a unit behind a number. -/
def unitOrder (s : String) : Nat :=
  let cs := (s.toList.dropWhile isBlank).dropWhile fun c => c.isDigit || c = '.' || c = '-'
  match cs with
  | c :: _ => ((['K', 'M', 'G', 'T', 'P', 'E'].idxOf? c.toUpper).map (· + 1)).getD 0
  | [] => 0

def compareNumbers (a b : Written) : Ordering :=
  compare (a.value * Int.pow 10 b.places) (b.value * Int.pow 10 a.places)

/-- The order of a month by the first three letters of its name. -/
def month (s : String) : Nat :=
  let name := String.ofList (((s.toList.dropWhile isBlank).take 3).map Char.toUpper)
  ((["JAN", "FEB", "MAR", "APR", "MAY", "JUN", "JUL", "AUG", "SEP", "OCT", "NOV", "DEC"].idxOf?
    name).map (· + 1)).getD 0

/-- The parts of a version: texts and numbers in turn. -/
def versionParts : Nat → List Char → List (String × Nat)
  | 0, _ => []
  | n + 1, cs =>
    if cs.isEmpty then []
    else
      let text := cs.takeWhile (!Char.isDigit ·)
      let rest := cs.drop text.length
      let digits := rest.takeWhile Char.isDigit
      (String.ofList text, digits.foldl (fun n c => 10 * n + (c.toNat - 48)) 0) ::
        versionParts n (rest.drop digits.length)

def compareVersions : List (String × Nat) → List (String × Nat) → Ordering
  | [], [] => .eq
  | [], _ :: _ => .lt
  | _ :: _, [] => .gt
  | (s, m) :: a, (t, n) :: b =>
    match compare s t with
    | .eq => match compare m n with
      | .eq => compareVersions a b
      | o => o
    | o => o

/-- A text as it is compared, letter by letter. -/
def folded (k : Collation) (s : String) : String :=
  let s := if k.seesWordsOnly
    then String.ofList (s.toList.filter fun c => c.isAlphanum || isBlank c) else s
  let s := if k.seesPrintableOnly then String.ofList (s.toList.filter fun c => ' ' ≤ c && c ≤ '~')
    else s
  if k.ignoresCase then s.map Char.toUpper else s

def compareTexts (k : Collation) (a b : String) : Ordering :=
  let result :=
    if k.isNumeric then compareNumbers (number a) (number b)
    else if k.isHuman then
      match compare (unitOrder a) (unitOrder b) with
      | .eq => compareNumbers (number a) (number b)
      | o => o
    else if k.isGeneral then
      match general a, general b with
      | some x, some y => compareNumbers x y
      | none, none => .eq
      | none, some _ => .lt
      | some _, none => .gt
    else if k.isMonth then compare (month a) (month b)
    else if k.isVersion then
      compareVersions (versionParts (a.length + 1) a.toList) (versionParts (b.length + 1) b.toList)
    else compare (k.folded a) (k.folded b)
  if k.isReversed then result.swap else result

end Collation

/-- One end of a key: a field, and a character in it. -/
structure KeyEnd where
  field : Nat
  char : Nat
  skipsBlanks : Bool

/-- A key: where it begins, where it ends if not at the end of the line, and how it is compared. -/
structure Key where
  start : KeyEnd
  stop : Option KeyEnd
  collation : Collation

namespace Key

/-- What is left of a line after some fields. -/
def afterFields (separator : Option Char) : Nat → List Char → List Char
  | 0, cs => cs
  | n + 1, cs =>
    match separator with
    | some mark => afterFields separator n ((cs.dropWhile (· != mark)).drop 1)
    | none =>
      afterFields separator n ((cs.dropWhile Collation.isBlank).dropWhile (!Collation.isBlank ·))

/-- How many characters of a line stand before the end of a key. -/
def stopAt (separator : Option Char) (e : KeyEnd) (line : List Char) : Nat :=
  if e.char = 0 then
    let before := afterFields separator (e.field - 1) line
    let field := match separator with
      | some mark => before.takeWhile (· != mark)
      | none =>
        let blanks := before.takeWhile Collation.isBlank
        blanks ++ (before.drop blanks.length).takeWhile (!Collation.isBlank ·)
    line.length - before.length + field.length
  else
    let before := afterFields separator (e.field - 1) line
    let before := if e.skipsBlanks then before.dropWhile Collation.isBlank else before
    min line.length (line.length - before.length + e.char)

/-- The part of a line that a key means. -/
def part (k : Key) (separator : Option Char) (line : String) : String :=
  let cs := line.toList
  let from' := afterFields separator (k.start.field - 1) cs
  let from' := if k.start.skipsBlanks then from'.dropWhile Collation.isBlank else from'
  let from' := from'.drop (k.start.char - 1)
  let start := cs.length - from'.length
  match k.stop with
  | none => String.ofList from'
  | some e => String.ofList (from'.take (stopAt separator e cs - start))

/-- One end of a key, with letters after it. -/
def end? (s : String) : Option (Nat × Nat × List Char) :=
  let field := s.toList.takeWhile Char.isDigit
  let rest := s.toList.drop field.length
  let number (ds : List Char) : Nat := ds.foldl (fun n c => 10 * n + (c.toNat - 48)) 0
  if field.isEmpty then none
  else
    match rest with
    | '.' :: more =>
      let char := more.takeWhile Char.isDigit
      some (number field, number char, more.drop char.length)
    | _ => some (number field, 0, rest)

/-- A key from its text; letters of its own take the place of those that hold for all keys. -/
def ofText? (collation : Collation) (skipsBlanks : Bool) (s : String) : Option Key :=
  let (first, last?) := match Text.splitOnce ',' s with
    | some (a, b) => (a, some b)
    | none => (s, none)
  (end? first).bind fun (field, char, letters) =>
    let last : Option (Option (Nat × Nat × List Char)) := match last? with
      | none => some none
      | some b => (end? b).map some
    last.bind fun last =>
      let all := letters ++ (last.elim [] fun (_, _, more) => more)
      if field = 0 then none
      else
        let own := all.foldl Collation.withLetter .plain
        let collation := if all.isEmpty then collation else own
        let blanksFirst := if all.isEmpty then skipsBlanks else letters.contains 'b'
        let blanksLast := if all.isEmpty then skipsBlanks
          else last.elim false fun (_, _, more) => more.contains 'b'
        some ⟨⟨field, char, blanksFirst⟩, last.map fun (f, c, _) => ⟨f, c, blanksLast⟩, collation⟩

end Key

/-! ## Sorting -/

/-- How lines are sorted. -/
structure Sorting where
  keys : List Key
  separator : Option Char
  collation : Collation
  skipsBlanks : Bool
  /-- Lines whose keys are equal stay as they are. -/
  isStable : Bool

namespace Sorting

/-- A line with the parts of it that are compared. -/
abbrev Keyed := String × List String

def keyed (s : Sorting) (line : String) : Keyed :=
  (line, if s.keys.isEmpty then
    [if s.skipsBlanks then String.ofList (line.toList.dropWhile Collation.isBlank) else line]
  else s.keys.map fun k => k.part s.separator line)

def compareKeys : List Collation → List String → List String → Ordering
  | k :: ks, a :: as, b :: bs =>
    match k.compareTexts a b with
    | .eq => compareKeys ks as bs
    | o => o
  | _, _, _ => .eq

def compareAll (s : Sorting) (a b : Keyed) : Ordering :=
  compareKeys (if s.keys.isEmpty then [s.collation] else s.keys.map (·.collation)) a.2 b.2

def comesFirst (s : Sorting) (a b : Keyed) : Bool :=
  match s.compareAll a b with
  | .lt => true
  | .gt => false
  | .eq =>
    if s.isStable then true
    else if s.collation.isReversed then b.1 ≤ a.1 else a.1 ≤ b.1

def sorted (s : Sorting) (lines : List String) : List Keyed :=
  (lines.map s.keyed).mergeSort s.comesFirst

/-- The first of all lines with equal keys that come after one another. -/
def distinct (s : Sorting) : List Keyed → List Keyed
  | [] => []
  | [a] => [a]
  | a :: b :: rest =>
    if s.compareAll a b == .eq then
      match distinct s (b :: rest) with
      | [] => [a]
      | _ :: more => a :: more
    else a :: distinct s (b :: rest)

end Sorting

def runSort : Utility :=
  withOptions (Grammar.ofText "bcCdfghik:mMno:rRsSt:uVz" [("ignore-leading-blanks", 'b'),
    ("check", 'c'), ("dictionary-order", 'd'), ("ignore-case", 'f'), ("general-numeric-sort", 'g'),
    ("human-numeric-sort", 'h'), ("key", 'k'), ("merge", 'm'), ("month-sort", 'M'),
    ("numeric-sort", 'n'),
    ("output", 'o'), ("reverse", 'r'), ("stable", 's'), ("field-separator", 't'), ("unique", 'u'),
    ("version-sort", 'V')] true) 2 fun s name o =>
    let collation := (o.given.filter fun (c, _) => !(['b', 'k', 't', 'o'].contains c)).foldl
      (fun k (c, _) => k.withLetter c) Collation.plain
    let separator : Option Char := (o.value? 't').bind fun t =>
      if t = "\\0" then some '\x00' else t.toList.head?
    let texts := o.given.filterMap fun (c, v) => if c = 'k' then some v else none
    match texts.mapM (Key.ofText? collation (o.has 'b')) with
    | none =>
      .done (.ofComplaint 2 (name ++ ": invalid field specification '" ++ texts.headD "" ++ "'"))
    | some keys =>
      let sorting : Sorting := ⟨keys, separator, collation, o.has 'b', o.has 's' || o.has 'u'⟩
      overFiles s o.operands fun contents =>
        match contents.find? fun (_, content) => !content.isOk with
        | some (path, .error fault) =>
          .ofComplaint 2 (name ++ ": cannot read: " ++ path ++ ": " ++ fault.words)
        | _ =>
          let lines := contents.flatMap fun (_, content) =>
            content.toOption.elim [] fun c => Octets.bareLines c.text
          if o.has 'c' || o.has 'C' then
            let keyed := lines.map sorting.keyed
            let isWrong (a b : Sorting.Keyed) : Bool :=
              if o.has 'u' then sorting.compareAll a b != .lt else !sorting.comesFirst a b
            match (keyed.zip keyed.tail).zipIdx.find? fun ((a, b), _) => isWrong a b with
            | none => .ofStatus 0
            | some ((_, b), i) =>
              if o.has 'C' then .ofStatus 1
              else .ofComplaint 1 (name ++ ": " ++ (o.operands.headD "-") ++ ":" ++
                toString (i + 2) ++ ": disorder: " ++ b.1)
          else
            let result := sorting.sorted lines
            let result := if o.has 'u' then sorting.distinct result else result
            let text := Octets.unlines (result.map (·.1))
            match o.value? 'o' with
            | none => .ofText 0 text
            | some path =>
              match s.writeFile path (Octets.toBytes text) with
              | .ok files => ⟨0, [], some files⟩
              | .error fault =>
                .ofComplaint 2 (name ++ ": open failed: " ++ path ++ ": " ++ fault.words)

/-! ## Equal lines -/

/-- Runs of lines with equal keys: the first line of each, and how many there are. -/
def runsOf (key : String → String) (lines : List String) : List (String × Nat) :=
  lines.foldr (fun line runs =>
    match runs with
    | (first, n) :: rest =>
      if key line = key first then (line, n + 1) :: rest else (line, 1) :: runs
    | [] => [(line, 1)]) []

def runUniq : Utility :=
  withOptions (Grammar.ofText "cdDf:is:uw:z" [("count", 'c'), ("repeated", 'd'),
    ("all-repeated", 'D'), ("skip-fields", 'f'), ("ignore-case", 'i'), ("skip-chars", 's'),
    ("unique", 'u'),
    ("check-chars", 'w')] true) 1 fun s name o =>
    let number (c : Char) : Option Nat := (o.value? c).bind decimal?
    let key (line : String) : String :=
      let cs := Key.afterFields none ((number 'f').getD 0) line.toList
      let cs := cs.drop ((number 's').getD 0)
      let cs := match number 'w' with
        | some n => cs.take n
        | none => cs
      String.ofList (if o.has 'i' then cs.map Char.toLower else cs)
    overFiles s (o.operands.take 1) fun contents =>
      match contents with
      | (path, .error fault) :: _ => .ofComplaint 1 (readComplaint name path fault)
      | contents =>
        let lines := contents.flatMap fun (_, content) =>
          content.toOption.elim [] fun c => Octets.bareLines c.text
        let runs := (runsOf key lines).filter fun (_, n) =>
          (!o.has 'd' || 1 < n) && (!o.has 'u' || n = 1) && (!o.has 'D' || 1 < n)
        let text := Octets.unlines (runs.flatMap fun (line, n) =>
          if o.has 'c' then [padLeft 7 (toString n) ++ " " ++ line]
          else if o.has 'D' then List.replicate n line else [line])
        match o.operands[1]? with
        | none => .ofText 0 text
        | some path =>
          match s.writeFile path (Octets.toBytes text) with
          | .ok files => ⟨0, [], some files⟩
          | .error fault => .ofComplaint 1 (readComplaint name path fault)

/-- Two sorted lists side by side: lines only in the first, only in the second, and in both. -/
def compared : Nat → List String → List String → List (Nat × String)
  | 0, _, _ => []
  | _ + 1, [], bs => bs.map (2, ·)
  | _ + 1, as, [] => as.map (1, ·)
  | n + 1, a :: as, b :: bs =>
    if a = b then (3, a) :: compared n as bs
    else if a < b then (1, a) :: compared n as (b :: bs)
    else (2, b) :: compared n (a :: as) bs

def runComm : Utility :=
  withOptions (Grammar.ofText "123z" [] true) 1 fun s name o =>
    match o.operands with
    | [first, second] =>
      overFiles s [first, second] fun contents =>
        match contents with
        | [(_, .ok a), (_, .ok b)] =>
          let shows (column : Nat) : Bool := !o.has (Char.ofNat (48 + column))
          let indent (column : Nat) : String :=
            String.ofList (List.replicate
              (((List.range (column - 1)).filter fun i => shows (i + 1)).length) '\t')
          let (as, bs) := (Octets.bareLines a.text, Octets.bareLines b.text)
          .ofText 0 (Octets.unlines ((compared (as.length + bs.length + 1) as bs).filterMap
            fun (column, line) => if shows column then some (indent column ++ line) else none))
        | _ =>
          match contents.find? fun (_, content) => !content.isOk with
          | some (path, .error fault) => .ofComplaint 1 (readComplaint name path fault)
          | _ => .ofStatus 1
    | operands => operandComplaint name operands[2]?

/-! ## Joining lines by a field -/

/-- How lines of two files are joined: where fields end, by which fields, which lines without a
partner are told, which fields are, and what stands for missing ones. -/
structure Joining where
  separator : Option Char
  keys : Nat × Nat
  keepsLeft : Bool
  keepsRight : Bool
  keepsPairs : Bool
  shown : Option (List (Nat × Nat))
  filler : String

namespace Joining

def fields (j : Joining) (line : String) : List String :=
  match j.separator with
  | some c => Text.split c line
  | none => (line.splitToList fun c => c = ' ' || c = '\t').filter (· != "")

/-- A line for two lines, of which one may be missing. -/
def tell (j : Joining) (left right : Option (List String)) : String :=
  let field (line : Option (List String)) (i : Nat) : String :=
    match line.bind (·[i - 1]?) with
    | some "" => j.filler
    | some text => text
    | none => j.filler
  let key := match left with
    | some line => line.getD (j.keys.1 - 1) ""
    | none => (right.getD []).getD (j.keys.2 - 1) ""
  let others (line : Option (List String)) (i : Nat) : List String :=
    (line.getD []).eraseIdx (i - 1)
  let texts := match j.shown with
    | some all => all.map fun (file, i) =>
      if file = 0 then key
      else field (if file = 1 then left else right) i
    | none => key :: (others left j.keys.1 ++ others right j.keys.2)
  ((j.separator.getD ' ').toString).intercalate texts

/-- All lines for two sorted lists. -/
def run (j : Joining) : Nat → List (List String) → List (List String) → List String
  | 0, _, _ => []
  | _ + 1, [], rights => if j.keepsRight then rights.map fun r => j.tell none (some r) else []
  | _ + 1, lefts, [] => if j.keepsLeft then lefts.map fun l => j.tell (some l) none else []
  | n + 1, l :: lefts, r :: rights =>
    let leftKey (line : List String) : String := line.getD (j.keys.1 - 1) ""
    let rightKey (line : List String) : String := line.getD (j.keys.2 - 1) ""
    match compare (leftKey l) (rightKey r) with
    | .lt => (if j.keepsLeft then [j.tell (some l) none] else []) ++ run j n lefts (r :: rights)
    | .gt => (if j.keepsRight then [j.tell none (some r)] else []) ++ run j n (l :: lefts) rights
    | .eq =>
      let key := leftKey l
      let as := (l :: lefts).takeWhile fun line => leftKey line = key
      let bs := (r :: rights).takeWhile fun line => rightKey line = key
      (if j.keepsPairs then as.flatMap fun a => bs.map fun b => j.tell (some a) (some b) else []) ++
        run j n ((l :: lefts).drop as.length) ((r :: rights).drop bs.length)

/-- The fields that a list names: zero for the key, or a file and a field with a point between
them. -/
def readShown? (text : String) : Option (List (Nat × Nat)) :=
  ((text.splitToList fun c => c = ',' || c = ' ').filter (· != "")).mapM fun part =>
    if part = "0" then some (0, 0)
    else
      match Text.splitOnce '.' part with
      | some ("1", i) => (decimal? i).map fun i => (1, i)
      | some ("2", i) => (decimal? i).map fun i => (2, i)
      | _ => none

end Joining

def runJoin : Utility :=
  withOptions (Grammar.ofText "a:v:1:2:j:t:o:e:i" [("ignore-case", 'i')] true) 1 fun s name o =>
    let number (c : Char) : Option Nat := (o.value? c).bind decimal?
    let has (c : Char) (file : String) : Bool := o.given.any fun (k, v) => k = c && v = file
    match o.operands, (o.value? 'o').map Joining.readShown? with
    | _, some none => misuse 1 name "invalid field specifier"
    | [first, second], shown =>
      let j : Joining :=
        { separator := (o.value? 't').bind (·.toList.head?)
          keys := ((number '1').getD ((number 'j').getD 1), (number '2').getD ((number 'j').getD 1))
          keepsLeft := has 'a' "1" || has 'v' "1"
          keepsRight := has 'a' "2" || has 'v' "2"
          keepsPairs := !o.has 'v'
          shown := shown.join
          filler := (o.value? 'e').getD "" }
      overFiles s [first, second] fun contents =>
        match contents with
        | [(_, .ok a), (_, .ok b)] =>
          let lines (c : Supply) : List (List String) := (Octets.bareLines c.text).map j.fields
          let (as, bs) := (lines a, lines b)
          .ofText 0 (Octets.unlines (j.run (as.length + bs.length + 1) as bs))
        | _ =>
          match contents.find? fun (_, content) => !content.isOk with
          | some (path, .error fault) => .ofComplaint 1 (readComplaint name path fault)
          | _ => .ofStatus 1
    | operands, _ => operandComplaint name operands[2]?

/-- The program that tells lines in any order, which here is the one they have. -/
def runShuf : Utility :=
  withOptions (Grammar.ofText "ei:n:o:rz" [("echo", 'e'), ("input-range", 'i'), ("head-count", 'n')]
    true) 1
    fun s name o =>
      let some? := (o.value? 'n').bind decimal?
      let shown (lines : List String) : Effect :=
        .ofText 0 (Octets.unlines (match some? with
          | some n => lines.take n
          | none => lines))
      if o.has 'e' then .done (shown o.operands)
      else
        match (o.value? 'i').map (Text.splitOnce '-') with
        | some (some (low, high)) =>
          match decimal? low, decimal? high with
          | some a, some b => .done (shown ((List.range' a (b + 1 - a)).map toString))
          | _, _ => misuse 1 name "invalid input range"
        | some none => misuse 1 name "invalid input range"
        | none =>
          overFiles s o.operands fun contents =>
            match contents.find? fun (_, content) => !content.isOk with
            | some (path, .error fault) => .ofComplaint 1 (readComplaint name path fault)
            | _ => shown (contents.flatMap fun (_, content) =>
                content.toOption.elim [] fun c => Octets.bareLines c.text)

/-- The program that says whether two files are the same. -/
def runCmp : Utility :=
  withOptions (Grammar.ofText "ls" [("silent", 's'), ("quiet", 's'), ("verbose", 'l')] true) 2
    fun s name o =>
      match o.operands with
      | first :: rest =>
        overFiles s [first, rest.headD "-"] fun contents =>
          match contents with
          | [(_, .ok a), (_, .ok b)] =>
            let (x, y) := (a.text, b.text)
            if x = y then .ofStatus 0
            else
              let (xs, ys) := (x.toList, y.toList)
              match (xs.zip ys).findIdx? fun (c, d) => c != d with
              | some i =>
                let line := (xs.take i).count '\n' + 1
                .ofText 1 (if o.has 's' then "" else first ++ " " ++ rest.headD "-" ++
                  " differ: byte " ++ toString (i + 1) ++ ", line " ++ toString line ++ "\n")
              | none =>
                let path := if xs.length < ys.length then first else rest.headD "-"
                if o.has 's' then .ofStatus 1
                else .ofComplaint 1 (name ++ ": EOF on " ++ path ++ " after byte " ++
                  toString (min xs.length ys.length))
          | _ =>
            match contents.find? fun (_, content) => !content.isOk with
            | some (path, .error fault) => .ofComplaint 2 (readComplaint name path fault)
            | _ => .ofStatus 2
      | [] => operandComplaint name none

end CiHarness.Tool
