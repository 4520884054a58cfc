import CiHarness.Host.Regex
import CiHarness.Host.Tool.Lines

/-!
# Editing streams

A script of commands is applied to each line of the input in turn. A command has addresses that
choose the lines for which it counts: numbers, the last line, expressions, or an interval between
two of them. The line at hand may be changed, printed, taken away, kept for later or joined with the
next one; what is left of it at the end of the script is printed.
-/
namespace CiHarness.Tool.Editing

/-- What chooses a line. An expression that is missing is the last one that was used. -/
inductive Address where
  | line (n : Nat)
  | last
  | matching (r : Option Regex)
  | stepping (first step : Nat)
  /-- The end of an interval: some lines after its beginning, or at the next multiple. -/
  | later (n : Nat)
  | multiple (n : Nat)

/-- A part of a replacement. -/
inductive Piece where
  | text (s : String)
  | group (number : Nat)
  /-- From here on, letters are changed: by the letter of the change. -/
  | recase (c : Char)

/-- How matches are replaced. -/
structure Substitution where
  regex : Option Regex
  pieces : List Piece
  extent : Regex.Extent
  prints : Bool
  output : Option String

/-- What is done to a line. -/
inductive Deed where
  | substitute (s : Substitution)
  | exchange (source target : List Char)
  | print
  | printFirst
  | delete
  | deleteFirst
  | quit (status : Nat) (isSilent : Bool)
  | number
  | reveal
  | next
  | joinNext
  | hold
  | holdMore
  | recall
  | recallMore
  | swap
  | append (text : String)
  | insert (text : String)
  | change (text : String)
  | readFile (path : String)
  | writeFile (path : String)
  | label (name : String)
  /-- Go on at a label or at the end: always, after a replacement, or if there was none. -/
  | jump (kind : Char) (name : String)
  | opening
  | closing
  | clear
  | nothing

/-- A command with its addresses. -/
structure Command where
  first : Option Address
  second : Option Address
  isNegated : Bool
  deed : Deed

/-! ## Reading scripts -/

abbrev Reading := StateT (List Char) (Except String)

def fail {α : Type} (words : String) : Reading α := throw words

def isBlank (c : Char) : Bool := c = ' ' || c = '\t'

def skipBlanks : Reading Unit := modify (·.dropWhile isBlank)

/-- Blanks, line breaks and semicolons. -/
def skipBetween : Reading Unit := modify (·.dropWhile fun c => isBlank c || c = '\n' || c = ';')

def takeNumber : Reading (Option Nat) := do
  let digits := (← get).takeWhile Char.isDigit
  if digits.isEmpty then return none
  modify (·.drop digits.length)
  return some (digits.foldl (fun n c => 10 * n + (c.toNat - 48)) 0)

/-- Characters up to a mark that is not escaped; an escaped mark stands for itself, and a mark
between brackets does not count in an expression. -/
def delimited (mark : Char) (isRegex : Bool) :
    Nat → Bool → List Char → List Char → Option (List Char × List Char)
  | 0, _, _, _ => none
  | _ + 1, _, _, [] => none
  | n + 1, inside, reversed, c :: cs =>
    if c = '\\' then
      match cs with
      | [] => none
      | d :: cs =>
        if d = mark then delimited mark isRegex n inside (d :: reversed) cs
        else if d = 'n' && isRegex && !inside then
          delimited mark isRegex n inside ('\n' :: reversed) cs
        else delimited mark isRegex n inside (d :: '\\' :: reversed) cs
    else if c = mark && !inside then some (reversed.reverse, cs)
    else if c = '\n' && isRegex then none
    else
      let inside := isRegex && if inside then !(c = ']') else c = '['
      -- a bracket right after the opening one is a member of the set
      match c, cs with
      | '[', ']' :: more =>
        if isRegex then delimited mark isRegex n inside (']' :: '[' :: reversed) more
        else delimited mark isRegex n inside (c :: reversed) cs
      | '[', '^' :: ']' :: more =>
        if isRegex then delimited mark isRegex n inside (']' :: '^' :: '[' :: reversed) more
        else delimited mark isRegex n inside (c :: reversed) cs
      | _, _ => delimited mark isRegex n inside (c :: reversed) cs

def takeDelimited (mark : Char) (isRegex : Bool) (words : String) : Reading (List Char) := do
  let cs ← get
  match delimited mark isRegex (cs.length + 1) false [] cs with
  | some (inside, rest) => set rest; return inside
  | none => fail words

/-- An expression; an empty one stands for the last one that was used. -/
def regexOf (extended ignoresCase seesLines : Bool) (cs : List Char) : Reading (Option Regex) :=
  if cs.isEmpty then return none
  else
    match Regex.ofText ⟨extended, ignoresCase, seesLines, true, false⟩ (String.ofList cs) with
    | .ok r => return some r
    | .error words => fail words

/-- The letters after an expression in an address. -/
def takeFlags : Nat → Reading (List Char)
  | 0 => return []
  | n + 1 => do
    match ← get with
    | 'I' :: cs => set cs; return 'I' :: (← takeFlags n)
    | 'M' :: cs => set cs; return 'M' :: (← takeFlags n)
    | _ => return []

/-- An address, if one comes next. -/
def address? (extended : Bool) : Reading (Option Address) := do
  let matching (mark : Char) : Reading (Option Address) := do
    let inside ← takeDelimited mark true "unterminated address regex"
    let flags ← takeFlags 4
    return some (.matching (← regexOf extended (flags.contains 'I') (flags.contains 'M') inside))
  match ← get with
  | '$' :: cs => set cs; return some .last
  | '/' :: cs => set cs; matching '/'
  | '\\' :: mark :: cs => set cs; matching mark
  | _ =>
    match ← takeNumber with
    | none => return none
    | some n =>
      match ← get with
      | '~' :: cs =>
        set cs
        return some (.stepping n ((← takeNumber).getD 0))
      | _ => return some (.line n)

/-- The parts of a replacement. -/
def pieces : List Char → List Piece
  | [] => []
  | '\\' :: c :: cs =>
    if c.isDigit then .group (c.toNat - 48) :: pieces cs
    else if ['L', 'U', 'E', 'l', 'u'].contains c then .recase c :: pieces cs
    else .text ((Regex.control? c).getD c).toString :: pieces cs
  | '&' :: cs => .group 0 :: pieces cs
  | c :: cs => .text c.toString :: pieces cs

/-- The rest of the line. -/
def takeLine : Reading String := do
  let line := (← get).takeWhile (· != '\n')
  modify (·.drop line.length)
  return String.ofList line

/-- A label or the name of a file for a jump: up to a semicolon or the end of the line. -/
def takeLabel : Reading String := do
  skipBlanks
  let name := (← get).takeWhile fun c => c != '\n' && c != ';' && c != '\x7d'
  modify (·.drop name.length)
  return String.ofList (name.reverse.dropWhile isBlank).reverse

/-- A text after its command: on the same line, or on lines after a backslash. -/
def takeText : Reading String := do
  skipBlanks
  match ← get with
  | '\\' :: '\n' :: cs => set cs
  | '\\' :: cs =>
    match cs.dropWhile isBlank with
    | '\n' :: more => set more
    | _ => set cs
  | _ => pure ()
  let cs ← get
  if cs.isEmpty then fail "expected \\ after 'a', 'c' or 'i'"
  let (text, rest) := go (cs.length + 1) [] cs
  set rest
  return String.ofList text ++ "\n"
where
  go : Nat → List Char → List Char → List Char × List Char
    | 0, reversed, cs => (reversed.reverse, cs)
    | _ + 1, reversed, [] => (reversed.reverse, [])
    | n + 1, reversed, '\\' :: c :: cs => go n ((Regex.control? c).getD c :: reversed) cs
    | n + 1, reversed, c :: cs =>
      if c = '\n' then (reversed.reverse, cs) else go n (c :: reversed) cs

/-- The flags of a replacement. -/
def substitutionFlags : Nat → (List Char) → Option Nat → Option String →
    Reading (List Char × Option Nat × Option String)
  | 0, flags, number, output => return (flags, number, output)
  | n + 1, flags, number, output => do
    match ← get with
    | 'w' :: cs =>
      set cs
      skipBlanks
      return (flags, number, some (← takeLine))
    | c :: cs =>
      if ['g', 'p', 'i', 'I', 'm', 'M', 'e'].contains c then
        set cs
        substitutionFlags n (c :: flags) number output
      else if c.isDigit then
        let k ← takeNumber
        if k = some 0 then fail "number option to \x60s' command may not be zero"
        substitutionFlags n flags k output
      else if [';', '\n', '\x7d', '#'].contains c || isBlank c then return (flags, number, output)
      else fail "unknown option to \x60s'"
    | [] => return (flags, number, output)

/-- What a command does, after its letter. -/
def deed (extended : Bool) (c : Char) : Reading Deed := do
  match c with
  | 's' =>
    match ← get with
    | mark :: cs =>
      set cs
      let words := "unterminated \x60s' command"
      let pattern ← takeDelimited mark true words
      let replacement ← takeDelimited mark false words
      let (flags, number, output) ← substitutionFlags 20 [] none none
      let has (c : Char) : Bool := flags.contains c
      let regex ← regexOf extended (has 'i' || has 'I') (has 'm' || has 'M') pattern
      return .substitute ⟨regex, pieces replacement, ⟨number.getD 1, has 'g'⟩, has 'p', output⟩
    | [] => fail "unterminated \x60s' command"
  | 'y' =>
    match ← get with
    | mark :: cs =>
      set cs
      let words := "unterminated \x60y' command"
      let plain (cs : List Char) : List Char :=
        (Escapes.letters.replace cs).1
      let source := plain (← takeDelimited mark false words)
      let target := plain (← takeDelimited mark false words)
      if source.length != target.length then fail "strings for \x60y' command are different lengths"
      return .exchange source target
    | [] => fail "unterminated \x60y' command"
  | 'p' => return .print
  | 'P' => return .printFirst
  | 'd' => return .delete
  | 'D' => return .deleteFirst
  | 'q' => skipBlanks; return .quit ((← takeNumber).getD 0) false
  | 'Q' => skipBlanks; return .quit ((← takeNumber).getD 0) true
  | '=' => return .number
  | 'l' => skipBlanks; let _ ← takeNumber; return .reveal
  | 'n' => return .next
  | 'N' => return .joinNext
  | 'h' => return .hold
  | 'H' => return .holdMore
  | 'g' => return .recall
  | 'G' => return .recallMore
  | 'x' => return .swap
  | 'z' => return .clear
  | 'a' => return .append (← takeText)
  | 'i' => return .insert (← takeText)
  | 'c' => return .change (← takeText)
  | 'r' => skipBlanks; return .readFile (← takeLine)
  | 'w' => skipBlanks; return .writeFile (← takeLine)
  | ':' => return .label (← takeLabel)
  | 'b' => return .jump 'b' (← takeLabel)
  | 't' => return .jump 't' (← takeLabel)
  | 'T' => return .jump 'T' (← takeLabel)
  | '\x7b' => return .opening
  | '\x7d' => return .closing
  | '#' => let _ ← takeLine; return .nothing
  | c => fail ("unknown command: \x60" ++ c.toString ++ "'")

/-- The commands of a script. The first argument bounds their number. -/
def commands (extended : Bool) : Nat → Reading (List Command)
  | 0 => return []
  | n + 1 => do
    skipBetween
    if (← get).isEmpty then return []
    let first ← address? extended
    skipBlanks
    let second ← match first, ← get with
      | some _, ',' :: cs => do
        set cs
        skipBlanks
        match ← get with
        | '+' :: cs => set cs; pure (some (Address.later ((← takeNumber).getD 0)))
        | '~' :: cs => set cs; pure (some (Address.multiple ((← takeNumber).getD 0)))
        | _ =>
          match ← address? extended with
          | some a => pure (some a)
          | none => fail "unexpected \x60,'"
      | _, _ => pure none
    skipBlanks
    let isNegated := (← get).head? = some '!'
    if isNegated then modify (·.dropWhile fun c => c = '!' || isBlank c)
    match ← get with
    | [] => fail "missing command"
    | c :: cs =>
      set cs
      let d ← deed extended c
      skipBlanks
      -- a command ends where another one may begin
      let cs ← get
      let isText := ['a', 'i', 'c'].contains c
      if !isText && c != '\x7b' && !(cs.isEmpty || [';', '\n', '\x7d', '#'].contains (cs.headD ' '))
          then
        fail "extra characters after command"
      return ⟨first, second, isNegated, d⟩ :: (← commands extended n)

/-- Whether the braces of commands fit together. -/
def isBalanced (all : List Command) : Bool :=
  (all.foldl (fun (depth : Option Nat) c => depth.bind fun n => match c.deed with
    | .opening => some (n + 1)
    | .closing => if n = 0 then none else some (n - 1)
    | _ => some n) (some 0)) == some 0

/-- The commands of a script, or what is wrong with it. -/
def script (extended : Bool) (text : String) : Except String (Array Command) :=
  match (commands extended (text.length + 1)).run text.toList with
  | .error words => .error words
  | .ok (all, _) =>
    if isBalanced all then .ok all.toArray else .error "unmatched \x60\x7b'"

/-! ## Running -/

/-- What is left of the input, the lines at hand, and what has been written. -/
structure State where
  /-- Lines to come, each with its file. -/
  input : List String
  /-- Whether the last line of the input has a line break. -/
  isClosed : Bool
  pattern : String
  held : String
  line : Nat
  /-- For each command with an interval, where it ends if it has begun. -/
  intervals : List (Nat × Option Nat)
  lastRegex : Option Regex
  hasReplaced : Bool
  /-- What is written after the line at hand: texts, or the contents of files. -/
  queued : List (String ⊕ String)
  out : String
  files : List (String × String)
  status : Nat

namespace State

/-- Whether the line at hand is the last one. -/
def isLast (s : State) : Bool := s.input.isEmpty

def emit (s : State) (text : String) : State := { s with out := s.out ++ text }

/-- The line at hand is written; the last line of all has a line break only if it had one. -/
def emitLine (s : State) (text : String) : State :=
  s.emit (if s.isLast && !s.isClosed then text else text ++ "\n")

/-- Something is written to a file. -/
def emitTo (s : State) (path text : String) : State :=
  if path = "/dev/stdout" then s.emit text
  else { s with files := (path, ((s.files.lookup path).getD "") ++ text) ::
    s.files.filter (·.1 != path) }

/-- What waits for the end of the line at hand is written. -/
def flush (s : State) (read : String → Option String) : State :=
  { s.queued.reverse.foldl (fun (s : State) item => match item with
    | .inl text => s.emit text
    | .inr path => s.emit ((read path).getD "")) s with queued := [] }

end State

/-- Whether an address chooses the line at hand, and the expression that was used last. -/
def Address.holds (a : Address) (s : State) : Bool × State :=
  match a with
  | .line n => (s.line = n, s)
  | .last => (s.isLast, s)
  | .stepping first step =>
    (if step = 0 then s.line = first else first ≤ s.line && (s.line - first) % step = 0, s)
  | .matching r =>
    let r := r.or s.lastRegex
    ((r.elim false fun r => r.occursIn s.pattern), { s with lastRegex := r })
  | .later _ => (false, s)
  | .multiple _ => (false, s)

/-- Whether a command counts for the line at hand. Its index tells its interval. -/
def Command.counts (c : Command) (index : Nat) (s : State) : Bool × State :=
  let (holds, s) : Bool × State :=
    match c.first, c.second with
    | none, _ => (true, s)
    | some a, none => a.holds s
    | some a, some b =>
      let others := s.intervals.filter (·.1 != index)
      match s.intervals.lookup index with
      | some (some n) => (true, { s with intervals := if n ≤ s.line then others else s.intervals })
      | some none =>
        let (ends, s) := b.holds s
        (true, { s with intervals := if ends then others else s.intervals })
      | none =>
        -- an interval from line zero may end at once by its expression
        let begins := match a with
          | .line 0 => s.line = 1
          | _ => (a.holds s).1
        let s := (a.holds s).2
        if !begins then (false, s)
        else
          let stay (stop : Option Nat) : State := { s with intervals := (index, stop) :: others }
          match a, b with
          | .line 0, b =>
            let (ends, s) := b.holds s
            (true, if ends then s else { s with intervals := (index, none) :: others })
          | _, .line n => (true, if n ≤ s.line then s else stay (some n))
          | _, .later n => (true, if n = 0 then s else stay (some (s.line + n)))
          | _, .multiple n =>
            (true, if n = 0 || s.line % n = 0 then s else stay (some ((s.line / n + 1) * n)))
          | _, .last => (true, if s.isLast then s else stay none)
          | _, _ => (true, stay none)
  (holds != c.isNegated, s)

/-- The text of a replacement for a match. -/
def replacementText (pieces : List Piece) (t : Array Char) (f : Regex.Found) : String :=
  (pieces.foldl (fun (out, lasting, once) p =>
    match p with
    | .recase c =>
      if c = 'E' then (out, none, none)
      else if c = 'l' ∨ c = 'u' then (out, lasting, some c) else (out, some c, once)
    | p =>
      let text := match p with
        | .text s => s
        | .group n => f.group t n
        | .recase _ => ""
      if text.isEmpty then (out, lasting, once)
      else
        let text := match lasting with
          | some 'U' => text.map Char.toUpper
          | some 'L' => text.map Char.toLower
          | _ => text
        let text := match once, text.toList with
          | some 'u', c :: cs => String.ofList (c.toUpper :: cs)
          | some 'l', c :: cs => String.ofList (c.toLower :: cs)
          | _, _ => text
        (out ++ text, lasting, none)) ("", (none : Option Char), (none : Option Char))).1

/-- A text with everything that is not a plain character as an escape. -/
def unambiguous (s : String) : String :=
  String.join (s.toList.map fun c =>
    match ([('\\', "\\\\"), ('\x07', "\\a"), ('\x08', "\\b"), ('\x0c', "\\f"), ('\n', "\\n"),
      ('\r', "\\r"), ('\t', "\\t"), ('\x0b', "\\v")] : List (Char × String)).lookup c with
    | some t => t
    | none =>
      if ' ' ≤ c ∧ c ≤ '~' then c.toString
      else
        let ds := Nat.toDigits 8 c.toNat
        "\\" ++ String.ofList (List.replicate (3 - ds.length) '0' ++ ds)) ++ "$"

/-- Where a run of the script goes on. -/
inductive Way where
  | going (index : Nat)
  | endOfScript
  /-- The line at hand is gone, and the script begins anew. -/
  | nextLine
  /-- The script begins anew without reading a line. -/
  | again
  | stop (prints : Bool)

/-- What a run knows of its script and surroundings. -/
structure Setup where
  commands : Array Command
  isQuiet : Bool
  read : String → Option String

namespace Setup

/-- The command after the brace that closes the one at an index. -/
def afterBlock (u : Setup) : Nat → Nat → Nat → Nat
  | 0, i, _ => i
  | n + 1, i, depth =>
    match (u.commands[i]?).map Command.deed with
    | none => i
    | some .opening => afterBlock u n (i + 1) (depth + 1)
    | some .closing => if depth = 1 then i + 1 else afterBlock u n (i + 1) (depth - 1)
    | some _ => afterBlock u n (i + 1) depth

/-- The place of a label. -/
def labelAt (u : Setup) (name : String) : Way :=
  if name = "" then .endOfScript
  else
    match u.commands.findIdx? fun c => match c.deed with
      | .label l => l = name
      | _ => false with
    | some i => .going i
    | none => .endOfScript

/-- What is done by a command that counts. -/
def perform (u : Setup) (c : Command) (index : Nat) (s : State) : State × Way :=
  let on : Way := .going (index + 1)
  let firstLine := (Text.splitOnce '\n' s.pattern).elim s.pattern (·.1)
  match c.deed with
  | .substitute sub =>
    match sub.regex.or s.lastRegex with
    | none => (s, on)
    | some r =>
      let s := { s with lastRegex := some r }
      let (text, n) := r.replace sub.extent (replacementText sub.pieces) s.pattern
      if n = 0 then (s, on)
      else
        let s := { s with pattern := text, hasReplaced := true }
        let s := if sub.prints then s.emitLine text else s
        let s := match sub.output with
          | some path => s.emitTo path (text ++ "\n")
          | none => s
        (s, on)
  | .exchange source target =>
    ({ s with pattern := s.pattern.map fun c => ((source.zip target).lookup c).getD c }, on)
  | .print => (s.emitLine s.pattern, on)
  | .printFirst => (s.emit (firstLine ++ "\n"), on)
  | .delete => (s, .nextLine)
  | .deleteFirst =>
    match Text.splitOnce '\n' s.pattern with
    | none => (s, .nextLine)
    | some (_, rest) => ({ s with pattern := rest }, .again)
  | .quit status isSilent => ({ s with status := status }, .stop (!isSilent))
  | .number => (s.emit (toString s.line ++ "\n"), on)
  | .reveal => (s.emit (unambiguous s.pattern ++ "\n"), on)
  | .next =>
    match s.input with
    | [] => (s, .stop true)
    | line :: rest =>
      let s := if u.isQuiet then s else s.emitLine s.pattern
      ({ s.flush u.read with pattern := line, input := rest, line := s.line + 1 }, on)
  | .joinNext =>
    match s.input with
    | [] => (s, .stop true)
    | line :: rest =>
      ({ s.flush u.read with
        pattern := s.pattern ++ "\n" ++ line, input := rest,
        line := s.line + 1 }, on)
  | .hold => ({ s with held := s.pattern }, on)
  | .holdMore => ({ s with held := s.held ++ "\n" ++ s.pattern }, on)
  | .recall => ({ s with pattern := s.held }, on)
  | .recallMore => ({ s with pattern := s.pattern ++ "\n" ++ s.held }, on)
  | .swap => ({ s with pattern := s.held, held := s.pattern }, on)
  | .clear => ({ s with pattern := "" }, on)
  | .append text => ({ s with queued := .inl text :: s.queued }, on)
  | .insert text => (s.emit text, on)
  | .change text =>
    -- the text stands once for an interval, at its end
    let isDue := c.second.isNone || c.isNegated || (s.intervals.lookup index).isNone
    (if isDue then s.emit text else s, .nextLine)
  | .readFile path => ({ s with queued := .inr path :: s.queued }, on)
  | .writeFile path => (s.emitTo path (s.pattern ++ "\n"), on)
  | .label _ => (s, on)
  | .jump kind name =>
    let isTaken := kind = 'b' || s.hasReplaced == (kind = 't')
    let s := if kind = 'b' then s else { s with hasReplaced := false }
    (s, if isTaken then u.labelAt name else on)
  | .opening => (s, on)
  | .closing => (s, on)
  | .nothing => (s, on)

/-- The script is run from a command on. The first argument bounds the number of commands. -/
def runFrom (u : Setup) : Nat → Nat → State → State × Way
  | 0, _, s => (s, .stop false)
  | n + 1, i, s =>
    match u.commands[i]? with
    | none => (s, .endOfScript)
    | some c =>
      let (counts, s) := c.counts i s
      if !counts then
        runFrom u n (match c.deed with
          | .opening => u.afterBlock (u.commands.size + 1) i 0
          | _ => i + 1) s
      else
        match u.perform c i s with
        | (s, .going j) => runFrom u n j s
        | (s, way) => (s, way)

/-- Lines are read and edited until none is left. -/
def cycles (u : Setup) : Nat → Bool → State → State
  | 0, _, s => s
  | n + 1, reads, s =>
    let start? : Option State :=
      if reads then
        match s.input with
        | [] => none
        | line :: rest =>
          some { s with pattern := line, input := rest, line := s.line + 1, hasReplaced := false }
      else some s
    match start? with
    | none => s
    | some s =>
      let (s, way) := u.runFrom 200000 0 s
      let closing (s : State) : State :=
        (if u.isQuiet then s else s.emitLine s.pattern).flush u.read
      match way with
      | .nextLine => cycles u n true (s.flush u.read)
      | .again => cycles u n false (s.flush u.read)
      | .stop true => closing s
      | .stop false => s.flush u.read
      | _ => cycles u n true (closing s)

/-- A text is edited. -/
def edit (u : Setup) (text : String) (line : Nat) : State :=
  let (lines, isClosed) := Octets.lines text
  u.cycles (2 * text.length + 10) true ⟨lines, isClosed, "", "", line, [], none, false, [], "", [],
    0⟩

end Setup

end CiHarness.Tool.Editing

namespace CiHarness.Tool

open Editing in
/-- The program that edits streams. -/
def runSed : Utility := fun s name args =>
  -- what follows the letter of editing in place is the ending of a copy
  let ending (arg : String) : Option String :=
    if arg.startsWith "-i" then some (arg.drop 2).toString
    else if arg.startsWith "--in-place=" then some (arg.drop 11).toString else none
  let plain (arg : String) : String := if (ending arg).isSome then "-i" else arg
  let copyEnding := ((args.takeWhile (· != "--")).findSome? ending).getD ""
  let copyName (path : String) : String :=
    if copyEnding.toList.contains '*' then
      let cs := path.toList.reverse
      let name := (cs.takeWhile (· != '/')).reverse
      String.ofList ((cs.drop name.length).reverse) ++ copyEnding.replace "*" (String.ofList name)
    else path ++ copyEnding
  withOptions (Grammar.ofText "nEre:f:si-uz" [("quiet", 'n'), ("silent", 'n'),
    ("regexp-extended", 'E'), ("expression", 'e'), ("file", 'f'), ("separate", 's'),
    ("in-place", 'i'), ("unbuffered", 'u'),
    ("posix", '-')] true) 1 (fun s name o =>
    let scripts := o.given.filterMap fun (c, v) =>
      if c = 'e' then some v
      else if c = 'f' then some ((s.read v).toOption.elim "" fun t =>
        (t.text.dropEndWhile (· = '\n')).toString)
      else none
    match scripts, o.operands with
    | [], [] =>
      .done (.ofComplaint 1
        ("Usage: " ++ name ++
          " [OPTION]... \x7bscript-only-if-no-other-script\x7d [input-file]..."))
    | _, operands =>
      let text := if scripts.isEmpty then operands.headD "" else "\n".intercalate scripts
      let paths := if scripts.isEmpty then operands.tail else operands
      match script (o.has 'E' || o.has 'r') text with
      | .error words =>
        .done (.ofComplaint 1 (name ++ ": -e expression #1, char " ++ toString text.length ++
          ": " ++ words))
      | .ok commands =>
        let isQuiet := o.has 'n' || text.startsWith "#n\n"
        let u : Editing.Setup :=
          ⟨commands, isQuiet, fun path => (s.read path).toOption.map (·.text)⟩
        let saved (s : Surroundings) (files : List (String × String)) : FileTree :=
          files.reverse.foldl (fun t (path, text) =>
            match ({ s with files := t }).writeFile path (Octets.toBytes text) with
            | .ok t => t
            | .error _ => t) s.files
        -- files that are only named are made empty
        let named := commands.toList.filterMap fun c => match c.deed with
          | .writeFile path => some path
          | .substitute sub => sub.output
          | _ => none
        let withNamed (files : List (String × String)) : List (String × String) :=
          files ++ (named.filter fun p => (files.lookup p).isNone && p != "/dev/stdout").map (·, "")
        overFiles s paths fun contents =>
          let complaints := contents.filterMap fun (path, content) => match content with
            | .error (.system .isADirectory) =>
              some (name ++ ": " ++
                (if o.has 'i' then "couldn't edit " ++ path ++ ": not a regular file"
                else "read error on " ++ path ++ ": Is a directory"))
            | .error fault => some (name ++ ": can't read " ++ path ++ ": " ++ fault.words)
            | .ok _ => none
          let status : UInt8 := if complaints.isEmpty then 0 else 2
          let texts := contents.filterMap fun (path, content) => content.toOption.map fun c =>
            (path, c.text)
          if o.has 'i' then
            let results := texts.map fun (path, text) => (path, u.edit text 0)
            let files := results.foldl (fun t (path, r) =>
              let s : Surroundings := { s with files := t }
              let copy := if copyEnding = "" then []
                else [(copyName path, (s.read path).toOption.elim "" (·.text))]
              saved s (withNamed r.files ++ [(path, r.out)] ++ copy)) s.files
            { Effect.ofBoth status complaints "" with files := some files }
          else
            let result := u.edit (joined (texts.map (·.2))) 0
            let status := if result.status = 0 then status else UInt8.ofNat result.status
            { Effect.ofBoth status complaints result.out with
              files := if named.isEmpty then none else some (saved s (withNamed result.files)) })
    s name (args.map plain)
where
  /-- Texts one after another; only the last one may end without a line break. -/
  joined : List String → String
    | [] => ""
    | [t] => t
    | t :: rest => (if t.isEmpty || t.endsWith "\n" then t else t ++ "\n") ++ joined rest

end CiHarness.Tool
