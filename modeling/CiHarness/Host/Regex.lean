import CiHarness.Host.Glob

/-!
# Regular expressions

An expression says which texts match it. Of the matches in a text the one that begins first counts,
and of those the longest one; its groups are filled by what their parts took when each part before
them took as much as it could. There are two ways to write an expression: in the basic one,
parentheses, braces and bars are active after a backslash, in the extended one without it.
-/
namespace CiHarness

/-- A condition on a position of a text that takes no character. -/
inductive Regex.Edge where
  | textStart
  | textEnd
  | lineStart
  | lineEnd
  | wordStart
  | wordEnd
  | wordEdge
  | noWordEdge
  /-- No word comes right before, or right after. -/
  | freeStart
  | freeEnd
  deriving DecidableEq

/-- A regular expression. -/
inductive Regex where
  | empty
  | one (isMember : Char → Bool)
  | edge (e : Regex.Edge)
  | group (number : Nat) (r : Regex)
  /-- What a group has taken, once more. -/
  | again (number : Nat)
  | seq (first second : Regex)
  | either (first second : Regex)
  | repeated (r : Regex) (least : Nat) (most : Option Nat)

namespace Regex

/-- What the groups of a match have taken: from one position to another. -/
abbrev Groups := List (Nat × Nat × Nat)

/-- A match: where it begins, where it ends, and its groups. -/
structure Found where
  start : Nat
  stop : Nat
  groups : Groups

/-- The characters from one position to another. -/
def between (t : Array Char) (start stop : Nat) : String :=
  String.ofList ((t.extract start stop).toList)

/-- The text of a match, and that of a group, which is empty if the group took nothing. -/
def Found.text (f : Found) (t : Array Char) : String := between t f.start f.stop

def Found.group (f : Found) (t : Array Char) (number : Nat) : String :=
  if number = 0 then f.text t
  else
    match f.groups.lookup number with
    | some (start, stop) => between t start stop
    | none => ""

/-! ## Matching -/

def isWord (c : Char) : Bool := c.isAlphanum || c = '_'

/-- Whether a condition holds at a position. -/
def Edge.holds (e : Edge) (t : Array Char) (i : Nat) : Bool :=
  let before : Bool := 0 < i && (t[i - 1]?).any isWord
  let after : Bool := (t[i]?).any isWord
  match e with
  | .textStart => i == 0
  | .textEnd => i == t.size
  | .lineStart => i == 0 || t[i - 1]? == some '\n'
  | .lineEnd => i == t.size || t[i]? == some '\n'
  | .wordStart => !before && after
  | .wordEnd => before && !after
  | .wordEdge => before != after
  | .noWordEdge => before == after
  | .freeStart => !before
  | .freeEnd => !after

/-- A position is put into an ascending list. -/
def insert (i : Nat) : List Nat → List Nat
  | [] => [i]
  | j :: rest => if i < j then i :: j :: rest else if i = j then j :: rest else j :: insert i rest

def union (a b : List Nat) : List Nat := a.foldl (fun all i => insert i all) b

/-- Positions that are reached by some more rounds. A round that reaches nothing new is the last
one. -/
def rounds (step : List Nat → List Nat) : Nat → List Nat → List Nat → List Nat
  | 0, _, all => all
  | n + 1, last, all =>
    let next := (step last).filter (!all.contains ·)
    if next.isEmpty then all else rounds step n next (union next all)

/-- Exactly so many rounds. -/
def exactly (step : List Nat → List Nat) : Nat → List Nat → List Nat
  | 0, from' => from'
  | n + 1, from' => if from'.isEmpty then [] else exactly step n (step from')

/-- Where matches can end that begin at some positions; groups are not asked for. -/
def ends (t : Array Char) : Regex → List Nat → List Nat
  | .empty, from' => from'
  | .one isMember, from' => from'.filterMap fun i =>
    if (t[i]?).any isMember then some (i + 1)
    else none
  | .edge e, from' => from'.filter (e.holds t)
  | .group _ r, from' => ends t r from'
  | .again _, from' => from'
  | .seq first second, from' => ends t second (ends t first from')
  | .either first second, from' => union (ends t first from') (ends t second from')
  | .repeated r least most, from' =>
    let start := exactly (ends t r) least from'
    match most with
    | none => rounds (ends t r) (t.size + 1) start start
    | some most => rounds (ends t r) (most - least) start start

/-- A repetition as a search: as many rounds as possible, then what comes after. -/
def iterate {α : Type}
    (step : Nat → Groups → (Nat → Groups → Option α) → Option α) :
    Nat → Nat → Option Nat → Nat → Groups → (Nat → Groups → Option α) → Option α
  | 0, _, _, _, _, _ => none
  | n + 1, least, most, i, groups, after =>
    let again :=
      if most = some 0 then none
      else step i groups fun j groups =>
        if j = i ∧ least = 0 then none
        else iterate step n (least - 1) (most.map (· - 1)) j groups after
    match again with
    | some found => some found
    | none => if least = 0 then after i groups else none

/-- The first way in which an expression matches from a position on and what comes after goes
well. -/
def follow {α : Type} (t : Array Char) :
    Regex → Nat → Groups → (Nat → Groups → Option α) → Option α
  | .empty, i, groups, after => after i groups
  | .one isMember, i, groups, after => if (t[i]?).any isMember then after (i + 1) groups else none
  | .edge e, i, groups, after => if e.holds t i then after i groups else none
  | .group number r, i, groups, after =>
    follow t r i groups fun j groups => after j ((number, i, j) :: groups.filter (·.1 != number))
  | .again number, i, groups, after =>
    match groups.lookup number with
    | some (start, stop) =>
      if t.extract i (i + (stop - start)) == t.extract start stop then
        after (i + (stop - start)) groups
      else none
    | none => none
  | .seq first second, i, groups, after =>
    follow t first i groups fun j groups => follow t second j groups after
  | .either first second, i, groups, after =>
    match follow t first i groups after with
    | some found => some found
    | none => follow t second i groups after
  | .repeated r least most, i, groups, after =>
    iterate (follow t r) (t.size - i + least + 2) least most i groups after

/-- Whether an expression asks for what a group has taken. -/
def looksBack : Regex → Bool
  | .again _ => true
  | .group _ r => r.looksBack
  | .seq first second => first.looksBack || second.looksBack
  | .either first second => first.looksBack || second.looksBack
  | .repeated r _ _ => r.looksBack
  | _ => false

/-- The longest match at a position. -/
def matchAt (r : Regex) (t : Array Char) (i : Nat) : Option Found :=
  let stop? : Option Nat :=
    if r.looksBack then
      -- of all ways the one that goes furthest
      ((List.range (t.size + 1 - i)).reverse.map (i + ·)).find? fun stop =>
        (follow t r i [] fun j _ => if j = stop then some () else none).isSome
    else (ends t r [i]).getLast?
  stop?.bind fun stop =>
    (follow t r i [] fun j groups => if j = stop then some groups else none).map fun groups =>
      ⟨i, stop, groups⟩

/-- The first match at some position or after it; the first argument is the number of positions. -/
def findFrom (r : Regex) (t : Array Char) : Nat → Nat → Option Found
  | 0, _ => none
  | n + 1, i =>
    match r.matchAt t i with
    | some found => some found
    | none => r.findFrom t n (i + 1)

/-- The first match in a text at a position or after it. -/
def find? (r : Regex) (t : Array Char) (i : Nat) : Option Found := r.findFrom t (t.size + 1 - i) i

/-- Whether a text has a match. -/
def occursIn (r : Regex) (text : String) : Bool :=
  let t := text.toList.toArray
  if r.looksBack then (r.find? t 0).isSome
  else (List.range (t.size + 1)).any fun i => !(ends t r [i]).isEmpty

/-- All matches in a text from left to right; an empty one is passed over where another one has just
ended. -/
def all (r : Regex) (t : Array Char) : List Found :=
  go (t.size + 2) 0 none
where
  go : Nat → Nat → Option Nat → List Found
    | 0, _, _ => []
    | n + 1, i, last =>
      if t.size < i then []
      else
        match r.find? t i with
        | none => []
        | some f =>
          if f.start = f.stop then
            if last = some f.start then go n (f.start + 1) none
            else f :: go n (f.start + 1) none
          else f :: go n f.stop (some f.stop)

/-! ## Reading -/

/-- In what way expressions are written. -/
structure Dialect where
  isExtended : Bool
  ignoresCase : Bool
  /-- Line breaks inside of a text begin and end lines. -/
  seesLines : Bool
  /-- The letters of control characters count after a backslash, outside of brackets and inside. -/
  knowsControls : Bool
  knowsControlsInBrackets : Bool

/-- What is left to be read, and the number of groups so far. -/
structure Source where
  rest : List Char
  groups : Nat

abbrev Reading := StateT Source (Except String)

def isMemberIn (d : Dialect) (isMember : Char → Bool) (c : Char) : Bool :=
  isMember c || (d.ignoresCase && (isMember c.toLower || isMember c.toUpper))

/-- An expression for the characters of a set, and for one character. -/
def ofSet (d : Dialect) (isMember : Char → Bool) : Regex := .one (isMemberIn d isMember)

def ofChar (d : Dialect) (c : Char) : Regex := ofSet d (· == c)

/-- The control character of a letter. -/
def control? (c : Char) : Option Char :=
  [('n', '\n'), ('t', '\t'), ('r', '\r'), ('f', '\x0c'), ('v', '\x0b'), ('a', '\x07')].lookup c

/-- The members of a set between brackets up to the closing one; the first argument bounds their
number. -/
def members (d : Dialect) : Nat → Bool → List Char →
    Option (List Glob.Member × List Char)
  | 0, _, _ => none
  | _ + 1, _, [] => none
  | n + 1, isFirst, c :: rest =>
    let add (m : Glob.Member) (rest : List Char) :=
      (members d n false rest).map fun (ms, rest) => (m :: ms, rest)
    /- A member that begins with a character: an interval, or the character alone. -/
    let from' (low : Char) (rest : List Char) :=
      match rest with
      | '-' :: ']' :: _ => add (.interval low low) rest
      | '-' :: high :: after =>
        if d.knowsControlsInBrackets && high = '\\' then
          match after with
          | e :: after => add (.interval low ((control? e).getD e)) after
          | [] => none
        else add (.interval low high) after
      | _ => add (.interval low low) rest
    if c = ']' ∧ !isFirst then some ([], rest)
    else if c = '[' then
      match rest with
      | ':' :: inner =>
        let name := inner.takeWhile (· != ':')
        match inner.drop name.length with
        | ':' :: ']' :: after => add (.named (String.ofList name)) after
        | _ => from' c rest
      | mark :: x :: mark' :: ']' :: after =>
        if mark = mark' ∧ (mark = '.' ∨ mark = '=') then from' x after else from' c rest
      | _ => from' c rest
    else if c = '\\' && d.knowsControlsInBrackets then
      match rest with
      | e :: after => from' ((control? e).getD e) after
      | [] => none
    else from' c rest

/-- A set after its opening bracket. -/
def bracket (d : Dialect) : Reading Regex := fun s =>
  let negated := s.rest.head? = some '^'
  let cs := if negated then s.rest.tail else s.rest
  match members d (cs.length + 1) true cs with
  | none => .error "unterminated address regex"
  | some (ms, rest) =>
    let isMember (c : Char) : Bool := isMemberIn d (fun c => ms.any (·.holds c)) c
    .ok (.one (fun c => isMember c != negated), { s with rest := rest })

/-- A number of rounds: at least, and at most if that is bounded. -/
def bounds? (cs : List Char) : Option (Nat × Option Nat) :=
  let number? (ds : List Char) : Option Nat :=
    if ds.isEmpty || !ds.all Char.isDigit then none
    else some (ds.foldl (fun n c => 10 * n + (c.toNat - 48)) 0)
  let low := cs.takeWhile (· != ',')
  match cs.drop low.length with
  | [] => (number? low).map fun n => (n, some n)
  | _ :: [] => (number? low).map fun n => (n, none)
  | _ :: high =>
    (number? high).bind fun m =>
      if low.isEmpty then some (0, some m) else (number? low).map fun n => (n, some m)

/-- The marks of repetition after an expression. -/
def marks (d : Dialect) : Nat → Regex → Reading Regex
  | 0, r => return r
  | n + 1, r => do
    let s ← get
    let go (least : Nat) (most : Option Nat) (rest : List Char) : Reading Regex := do
      set { s with rest := rest }
      marks d n (.repeated r least most)
    let braced (close : List Char) (inner : List Char) : Reading Regex := do
      let inside := inner.takeWhile fun c => c.isDigit || c = ','
      let rest := inner.drop inside.length
      if close.isPrefixOf rest then
        match bounds? inside with
        | some (least, most) => go least most (rest.drop close.length)
        | none => throw "Invalid content of \\\x7b\\\x7d"
      else if d.isExtended then return r
      else throw "Unmatched \\\x7b"
    match s.rest, d.isExtended with
    | '*' :: rest, _ => go 0 none rest
    | '+' :: rest, true => go 1 none rest
    | '?' :: rest, true => go 0 (some 1) rest
    | '\\' :: '+' :: rest, false => go 1 none rest
    | '\\' :: '?' :: rest, false => go 0 (some 1) rest
    | '\x7b' :: inner, true => braced ['\x7d'] inner
    | '\\' :: '\x7b' :: inner, false => braced ['\\', '\x7d'] inner
    | _, _ => return r

/-- What a character after a backslash stands for, other than one that forms expressions. -/
def escaped (d : Dialect) (c : Char) : Regex :=
  let isSpace : Char → Bool := Glob.isInClass "space"
  match c with
  | 'w' => ofSet d isWord
  | 'W' => ofSet d (!isWord ·)
  | 's' => ofSet d isSpace
  | 'S' => ofSet d (!isSpace ·)
  | 'b' => .edge .wordEdge
  | 'B' => .edge .noWordEdge
  | '<' => .edge .wordStart
  | '>' => .edge .wordEnd
  | '\x60' => .edge .textStart
  | '\x27' => .edge .textEnd
  | c =>
    if c.isDigit && c != '0' then .again (c.toNat - 48)
    else ofChar d (if d.knowsControls then (control? c).getD c else c)

mutual

/-- Choices up to a closing parenthesis or the end. The first argument bounds the depth. -/
def choices (d : Dialect) : Nat → Bool → Reading Regex
  | 0, _ => throw "Regular expression too big"
  | n + 1, isInner => do
    let first ← items d n isInner true .empty
    let s ← get
    match s.rest, d.isExtended with
    | '|' :: rest, true =>
      set { s with rest := rest }
      return .either first (← choices d n isInner)
    | '\\' :: '|' :: rest, false =>
      set { s with rest := rest }
      return .either first (← choices d n isInner)
    | _, _ => return first

/-- Expressions one after another, up to a bar, a closing parenthesis or the end. -/
def items (d : Dialect) : Nat → Bool → Bool → Regex → Reading Regex
  | 0, _, _, _ => throw "Regular expression too big"
  | n + 1, isInner, isFirst, before => do
    let s ← get
    let add (r : Regex) (rest : List Char) : Reading Regex := do
      set { s with rest := rest }
      let r ← marks d (rest.length + 1) r
      items d n isInner false (.seq before r)
    let anchor (e : Edge) (rest : List Char) : Reading Regex := do
      set { s with rest := rest }
      -- a star after an anchor is a plain character in the basic form
      items d n isInner (!d.isExtended) (.seq before (.edge e))
    let group (rest : List Char) : Reading Regex := do
      let number := s.groups + 1
      set ({ s with rest := rest, groups := number } : Source)
      let r ← choices d n true
      let s ← get
      let close : List Char := if d.isExtended then [')'] else ['\\', ')']
      if close.isPrefixOf s.rest then
        set { s with rest := s.rest.drop close.length }
        let r ← marks d (s.rest.length + 1) (.group number r)
        items d n isInner false (.seq before r)
      else throw "Unmatched ( or \\("
    let front : Edge := if d.seesLines then .lineStart else .textStart
    let back : Edge := if d.seesLines then .lineEnd else .textEnd
    match s.rest with
    | [] => return before
    | c :: rest =>
      if d.isExtended then
        match c with
        | '|' => return before
        | ')' => if isInner then return before else add (ofChar d c) rest
        | '(' => group rest
        | '^' => anchor front rest
        | '$' => anchor back rest
        | '.' => add (.one fun _ => true) rest
        | '[' => set { s with rest := rest }; let r ← bracket d; add r (← get).rest
        | '\\' =>
          match rest with
          | [] => throw "Trailing backslash"
          | e :: rest => add (escaped d e) rest
        | _ => add (ofChar d c) rest
      else
        match c, rest with
        | '\\', '|' :: _ => return before
        | '\\', ')' :: _ => if isInner then return before else throw "Unmatched ) or \\)"
        | '\\', '(' :: rest => group rest
        | '\\', '\x7b' :: rest =>
          if isFirst then add (ofChar d '\x7b') rest
          else throw "Invalid preceding regular expression"
        | '\\', [] => throw "Trailing backslash"
        | '\\', e :: rest => add (escaped d e) rest
        | '^', _ => if isFirst then anchor front rest else add (ofChar d c) rest
        | '$', _ =>
          let isLast := rest.isEmpty || ['\\', ')'].isPrefixOf rest || ['\\', '|'].isPrefixOf rest
          if isLast then anchor back rest else add (ofChar d c) rest
        | '.', _ => add (.one fun _ => true) rest
        | '[', _ => set { s with rest := rest }; let r ← bracket d; add r (← get).rest
        | '*', _ =>
          if isFirst then do
            set { s with rest := rest }
            items d n isInner false (.seq before (ofChar d c))
          else add (ofChar d c) rest
        | _, _ => add (ofChar d c) rest

end

/-- An expression from its text, or what is wrong with it. -/
def ofText (d : Dialect) (text : String) : Except String Regex :=
  match (choices d (4 * text.length + 10) false).run ⟨text.toList, 0⟩ with
  | .error words => .error words
  | .ok (r, s) => if s.rest.isEmpty then .ok r else .error "Unmatched ) or \\)"

/-- The number of groups of an expression. -/
def groupCount : Regex → Nat
  | .group number r => max number r.groupCount
  | .seq first second => max first.groupCount second.groupCount
  | .either first second => max first.groupCount second.groupCount
  | .repeated r _ _ => r.groupCount
  | _ => 0

/-- A text in which every character stands for itself. -/
def ofPlain (d : Dialect) (text : String) : Regex :=
  text.toList.foldl (fun r c => .seq r (ofChar d c)) .empty

/-! ## Replacing -/

/-- The matches that are replaced: one with a number, or all from that number on. -/
structure Extent where
  first : Nat
  isAll : Bool

/-- A text with matches replaced, and the number of replacements. -/
def replace (r : Regex) (extent : Extent) (replacement : Array Char → Found → String)
    (text : String) : String × Nat :=
  let t := text.toList.toArray
  let found := (r.all t).zipIdx.filterMap fun (f, i) =>
    if i + 1 = extent.first || (extent.isAll && extent.first ≤ i + 1) then some f else none
  if found.isEmpty then (text, 0)
  else
    let (out, last) := found.foldl (fun (out, last) f =>
      (out ++ between t last f.start ++ replacement t f, f.stop)) ("", 0)
    (out ++ between t last t.size, found.length)

end Regex

end CiHarness
