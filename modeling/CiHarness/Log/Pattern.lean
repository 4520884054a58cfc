import CiHarness.Text.Alphanumeric
import CiHarness.Text.Blank

/-!
# Patterns for values

A directive may ask for the value of a field by a regular expression. No entry of the harness is
ever looked into for a value, so all that counts is which texts are patterns at all. They are those
of the usual syntax with groups, classes, repetitions, anchors and flags, less what would need
tables of characters (classes of letters, case folding, boundaries of words) as long as characters
rather than bytes are meant, and less what would match a part of a character as soon as bytes are
meant.

A value never holds a closing brace, so a form that needs one is malformed.
-/
namespace CiHarness.Pattern

/-- What the flags of a pattern switch: case is ignored, characters are meant rather than bytes, and
blanks and comments are passed over. -/
structure Flags where
  foldsCase : Bool
  wide : Bool
  loose : Bool

/-- What a pattern begins with: characters are meant, case counts, and so does every blank. -/
def Flags.initial : Flags := ⟨false, true, false⟩

/-- What an escape may stand for. -/
inductive Atom where
  /-- A character, given by two hexadecimal digits or in another way. -/
  | literal (c : Char) (byTwoDigits : Bool)
  | anchor
  | wordBoundary
  /-- Digits, blanks or letters of words, or all others. -/
  | kind (negated : Bool)

/-- Blanks, and comments up to the end of a line, are passed over if the flags say so. -/
def skip (f : Flags) (cs : List Char) : List Char :=
  if f.loose then go cs.length cs else cs
where
  go : Nat → List Char → List Char
    | 0, cs => cs
    | n + 1, cs =>
      match Text.dropBlanks cs with
      | '#' :: rest => go n (rest.dropWhile (· != '\n'))
      | rest => rest

/-! ## Escapes -/

/-- The value of a hexadecimal digit. -/
def digit? (c : Char) : Option Nat :=
  if '0' ≤ c ∧ c ≤ '9' then some (c.toNat - 48)
  else if 'a' ≤ c ∧ c ≤ 'f' then some (c.toNat - 87)
  else if 'A' ≤ c ∧ c ≤ 'F' then some (c.toNat - 55)
  else none

/-- The value of some hexadecimal digits. -/
def number? (f : Flags) : Nat → Nat → List Char → Option (Nat × List Char)
  | 0, value, cs => some (value, cs)
  | n + 1, value, cs =>
    match skip f cs with
    | [] => none
    | c :: rest => (digit? c).bind fun d => number? f n (value * 16 + d) rest

/-- A character that may be escaped to stand for itself: any in ASCII but letters, digits and the
angle brackets. -/
def isEscapable (c : Char) : Bool :=
  c.toNat < 0x80 && !c.isAlphanum && c != '<' && c != '>'

/-- The characters that a letter stands for after a backslash. -/
def controls : List (Char × Char) :=
  [('a', '\x07'), ('t', '\t'), ('n', '\n'), ('v', '\x0b'), ('f', '\x0c'), ('r', '\r')]

/-- What follows a backslash. -/
def escape? (f : Flags) : List Char → Option (Atom × List Char)
  | [] => none
  | c :: cs =>
    let code (width : Nat) : Option (Atom × List Char) :=
      (number? f width 0 cs).bind fun (n, rest) =>
        if Nat.isValidChar n then some (.literal (Char.ofNat n) (width == 2), rest) else none
    if c = 'x' then code 2
    else if c = 'u' then code 4
    else if c = 'U' then code 8
    else if ['d', 's', 'w'].contains c then some (.kind false, cs)
    else if ['D', 'S', 'W'].contains c then some (.kind true, cs)
    else if let some control := controls.lookup c then some (.literal control false, cs)
    else if c = 'A' ∨ c = 'z' then some (.anchor, cs)
    else if ['b', 'B', '<', '>'].contains c then some (.wordBoundary, cs)
    else if isEscapable c then some (.literal c false, cs)
    else none

/-- Whether an atom may stand outside of a class. -/
def Atom.isAllowed (f : Flags) : Atom → Bool
  | .literal c byTwoDigits =>
    if f.wide then !f.foldsCase else c.toNat < 0x80 || (!byTwoDigits && !f.foldsCase)
  | .anchor => true
  | .wordBoundary => !f.wide
  | .kind negated => !f.wide && !negated

/-! ## Classes -/

/-- Whether an atom may stand in a class. -/
def Atom.isMember (f : Flags) : Atom → Bool
  | .literal c _ => if f.wide then !f.foldsCase else c.toNat < 0x80
  | .kind negated => !f.wide && !negated
  | _ => false

/-- The classes that have a name between colons. -/
def classNames : List String :=
  ["alnum", "alpha", "ascii", "blank", "cntrl", "digit", "graph", "lower", "print", "punct",
    "space", "upper", "word", "xdigit"]

/-- What comes after a class with a name, and whether it is negated. -/
def namedClass? (cs : List Char) : Option (Bool × List Char) :=
  match cs with
  | '[' :: ':' :: rest =>
    let negated := rest.head? = some '^'
    let rest := if negated then rest.tail else rest
    match rest.dropWhile (· != ':') with
    | ':' :: ']' :: after =>
      if classNames.contains (String.ofList (rest.takeWhile (· != ':'))) then some (negated, after)
      else none
    | _ => none
  | _ => none

/-- What comes after the beginning of a class: hyphens in front stand for themselves, and so does a
bracket as the first member. -/
def openClass? (f : Flags) (cs : List Char) : Option (List Char) :=
  let cs := skip f cs
  let negated := cs.head? = some '^'
  if negated && !f.wide then none
  else
    let cs := skip f (if negated then cs.tail else cs)
    let rest := dashes cs.length cs
    let rest := if rest.length = cs.length ∧ rest.head? = some ']' then skip f rest.tail else rest
    if f.wide && f.foldsCase && rest.length < cs.length then none else some rest
where
  dashes : Nat → List Char → List Char
    | n + 1, '-' :: rest => dashes n (skip f rest)
    | _, cs => cs

/-- A member of a class that is one atom. -/
def atom? (f : Flags) : List Char → Option (Atom × List Char)
  | [] => none
  | '\\' :: rest => escape? f rest
  | c :: rest => some (.literal c false, rest)

/-- What comes after a member of a class, which is an atom or an interval. -/
def afterMember? (f : Flags) (cs : List Char) : Option (List Char) :=
  (atom? f cs).bind fun (first, rest) =>
    let rest := skip f rest
    let next := (skip f rest.tail).head?
    if rest.head? != some '-' || next = some ']' || next = some '-' then
      if first.isMember f then some rest else none
    else
      (atom? f (skip f rest.tail)).bind fun (last, rest) =>
        match first, last with
        | .literal low _, .literal high _ =>
          if low ≤ high && first.isMember f && last.isMember f then some rest else none
        | _, _ => none

/-- What comes after a class; `depth` classes around this one are open too. The first argument
bounds the number of members. -/
def afterClass? (f : Flags) : Nat → Nat → List Char → Option (List Char)
  | 0, _, _ => none
  | n + 1, depth, cs =>
    let cs := skip f cs
    match cs with
    | [] => none
    | ']' :: rest =>
      match depth with
      | 0 => some rest
      | depth + 1 => afterClass? f n depth rest
    | '[' :: rest =>
      match namedClass? cs with
      | some (negated, rest) =>
        if if f.wide then f.foldsCase else negated then none else afterClass? f n depth rest
      | none => (openClass? f rest).bind (afterClass? f n (depth + 1))
    | '&' :: '&' :: rest => afterClass? f n depth rest
    | '-' :: '-' :: rest => afterClass? f n depth rest
    | '~' :: '~' :: rest => afterClass? f n depth rest
    | _ => (afterMember? f cs).bind (afterClass? f n depth)

/-! ## Groups -/

/-- The letters of flags up to a colon or a parenthesis: the flags they set, that mark, whether
there was any letter, and what comes after. No flag is named twice, and a hyphen, after which flags
are taken back, stands once and never last. -/
def flags? (f : Flags) (seen : List Char) : List Char → Option (Flags × Bool × Bool × List Char)
  | [] => none
  | c :: cs =>
    if c = ':' ∨ c = ')' then
      if seen.head? = some '-' then none else some (f, c = ')', !seen.isEmpty, cs)
    else if seen.contains c then none
    else
      let on := !seen.contains '-'
      if c = 'i' then flags? { f with foldsCase := on } (c :: seen) cs
      else if c = 'u' then flags? { f with wide := on } (c :: seen) cs
      else if c = 'x' then flags? { f with loose := on } (c :: seen) cs
      else if ['m', 's', 'U', 'R', '-'].contains c then flags? f (c :: seen) cs
      else none

/-- A group's name up to the angle bracket after it. -/
def name? (cs : List Char) : Option (String × List Char) :=
  let name := cs.takeWhile (· != '>')
  let isFirst (c : Char) : Bool := c = '_' || (Text.isAlphanumeric c && !c.isDigit)
  let isNext (c : Char) : Bool :=
    ['_', '.', '[', ']'].contains c || Text.isAlphanumeric c
  match cs.dropWhile (· != '>') with
  | [] => none
  | _ :: rest =>
    if name.head?.any isFirst && name.all isNext then some (String.ofList name, rest) else none

/-! ## The whole pattern -/

/-- How deep a sequence is nested that is being read: its branches so far, and the parts of the last
one, of which the last may still be repeated. -/
structure Nesting where
  branches : Nat
  branchDepth : Nat
  parts : Nat
  partDepth : Nat
  last : Nat

namespace Nesting

def empty : Nesting := ⟨0, 0, 0, 0, 0⟩

/-- A part is added. -/
def add (s : Nesting) (depth : Nat) : Nesting :=
  { s with parts := s.parts + 1, partDepth := max s.partDepth s.last, last := depth }

/-- The last part is repeated. -/
def repeated (s : Nesting) : Nesting := { s with last := s.last + 1 }

/-- A branch ends; parts that follow one another are one level deeper than each of them. -/
def endBranch (s : Nesting) : Nesting :=
  let depth := max s.partDepth s.last + if 2 ≤ s.parts then 1 else 0
  ⟨s.branches + 1, max s.branchDepth depth, 0, 0, 0⟩

/-- The depth of the whole sequence. -/
def depth (s : Nesting) : Nat :=
  let s := s.endBranch
  s.branchDepth + if 2 ≤ s.branches then 1 else 0

end Nesting

/-- How deep a pattern may be nested. -/
def depthLimit : Nat := 250

/-- What is known between two parts of a pattern. -/
structure State where
  flags : Flags
  /-- Whether what stands in front may be repeated. -/
  repeatable : Bool
  nesting : Nesting
  /-- The open groups, the inner ones first: the flags around each, and what stood in front of
  it. -/
  groups : List (Flags × Nesting)
  names : List String

/-- A part is added; `depth` tells how deep it is. -/
def State.add (s : State) (depth : Nat) : State :=
  { s with repeatable := true, nesting := s.nesting.add depth }

/-- A group begins. -/
def State.openGroup (s : State) (inner : Flags) : State :=
  { s with flags := inner, repeatable := false, nesting := .empty,
           groups := (s.flags, s.nesting) :: s.groups }

/-- What an open parenthesis begins: a group, with or without a name or flags, or only flags. -/
def afterParenthesis? (s : State) (cs : List Char) : Option (State × List Char) :=
  let named (cs : List Char) : Option (State × List Char) :=
    (name? cs).bind fun (name, rest) =>
      if s.names.contains name then none
      else some ({ s.openGroup s.flags with names := name :: s.names }, rest)
  match skip s.flags cs with
  | '?' :: 'P' :: '<' :: rest => named rest
  | '?' :: '<' :: rest => named rest
  | '?' :: rest =>
    (flags? s.flags [] rest).bind fun (flags, isClosed, hasAny, rest) =>
      if !isClosed then some (s.openGroup flags, rest)
      else if hasAny then
        some ({ s with flags := flags, repeatable := false, nesting := s.nesting.add 0 }, rest)
      else none
  | rest => some (s.openGroup s.flags, rest)

/-- One part of a pattern is read, or a mark between parts. -/
def step? (s : State) : List Char → Option (State × List Char)
  | [] => none
  | c :: cs =>
    if c = '(' then afterParenthesis? s cs
    else if c = ')' then
      match s.groups with
      | [] => none
      | (flags, around) :: groups =>
        some ({ s with flags := flags, repeatable := true,
                       nesting := around.add (s.nesting.depth + 1), groups := groups }, cs)
    else if c = '|' then
      some ({ s with repeatable := false, nesting := s.nesting.endBranch }, cs)
    else if c = '?' ∨ c = '*' ∨ c = '+' then
      if s.repeatable then
        some ({ s with nesting := s.nesting.repeated }, if cs.head? = some '?' then cs.tail else cs)
      else none
    else if c = '\x7b' then none
    else if c = '[' then
      (openClass? s.flags cs).bind fun rest =>
        (afterClass? s.flags (rest.length + 1) 0 rest).map fun rest => (s.add 1, rest)
    else if c = '\\' then
      (escape? s.flags cs).bind fun (atom, rest) =>
        if atom.isAllowed s.flags then some (s.add 0, rest) else none
    else if c = '.' then if s.flags.wide then some (s.add 0, cs) else none
    else if c = '^' ∨ c = '$' then some (s.add 0, cs)
    else if (Atom.literal c false).isAllowed s.flags then some (s.add 0, cs)
    else none

/-- The parts of a pattern are read one after another; the first argument bounds their number. -/
def steps : Nat → State → List Char → Bool
  | 0, _, _ => false
  | n + 1, s, cs =>
    match skip s.flags cs with
    | [] => s.groups.isEmpty && s.nesting.depth ≤ depthLimit
    | rest => (step? s rest).any fun (s, rest) => steps n s rest

/-- A text is a pattern. -/
def isPattern (cs : List Char) : Bool :=
  steps (cs.length + 1) ⟨.initial, false, .empty, [], []⟩ cs

end CiHarness.Pattern
