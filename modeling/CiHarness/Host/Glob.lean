import CiHarness.Host.FileTree

/-!
# Patterns of names

In a pattern a star stands for any text, a question mark for any character, and brackets for any
character of a set; everything else, and all that was quoted, stands for itself. An extended pattern
may also hold choices between patterns. A pattern of a path is matched name by name against the
places of a file tree, and a leading dot of a name only by a dot.
-/
namespace CiHarness

/-- A character of a pattern, and whether it was quoted. -/
abbrev Cell := Char × Bool

namespace Glob

/-- The cells of a quoted text, and of one that is not quoted. -/
def quoted (s : String) : List Cell := s.toList.map (·, true)

def active (s : String) : List Cell := s.toList.map (·, false)

/-- The text of some cells. -/
def textOf (cells : List Cell) : String := String.ofList (cells.map (·.1))

/-- The classes of characters that have a name. -/
def isInClass (name : String) (c : Char) : Bool :=
  match name with
  | "alpha" => c.isAlpha
  | "digit" => c.isDigit
  | "alnum" => c.isAlphanum
  | "upper" => c.isUpper
  | "lower" => c.isLower
  | "space" => c = ' ' || ('\t' ≤ c && c ≤ '\r')
  | "blank" => c = ' ' || c = '\t'
  | "punct" => '!' ≤ c && c ≤ '~' && !c.isAlphanum
  | "print" => ' ' ≤ c && c ≤ '~'
  | "graph" => '!' ≤ c && c ≤ '~'
  | "cntrl" => c < ' ' || c = '\x7f'
  | "xdigit" => c.isDigit || ('a' ≤ c && c ≤ 'f') || ('A' ≤ c && c ≤ 'F')
  | _ => false

/-- A member of a set between brackets. -/
inductive Member where
  | interval (low high : Char)
  | named (name : String)

def Member.holds (m : Member) (c : Char) : Bool :=
  match m with
  | .interval low high => low ≤ c && c ≤ high
  | .named name => isInClass name c

/-- The members of a set up to the bracket that closes it, and what comes after; the first argument
bounds their number. -/
def members : Nat → Bool → List Cell → Option (List Member × List Cell)
  | 0, _, _ => none
  | _ + 1, _, [] => none
  | n + 1, isFirst, (c, q) :: rest =>
    if c = ']' ∧ !q ∧ !isFirst then some ([], rest)
    else if c = '[' ∧ !q ∧ (rest.head?.map (·.1)) = some ':' then
      let inside := (rest.tail.takeWhile (·.1 != ':'))
      match rest.tail.drop inside.length with
      | (':', _) :: (']', _) :: after =>
        (members n false after).map fun (ms, after) => (.named (textOf inside) :: ms, after)
      | _ => (members n false rest).map fun (ms, after) => (.interval '[' '[' :: ms, after)
    else
      let (low, rest) := match c, q, rest with
        | '\\', false, (d, _) :: rest => (d, rest)
        | c, _, rest => (c, rest)
      match rest with
      | ('-', false) :: (']', false) :: _ =>
        (members n false rest).map fun (ms, after) => (.interval low low :: ms, after)
      | ('-', false) :: (high, _) :: after =>
        (members n false after).map fun (ms, after) => (.interval low high :: ms, after)
      | _ => (members n false rest).map fun (ms, after) => (.interval low low :: ms, after)

/-- A set after its opening bracket: whether a character is in it, and what comes after. -/
def set? (cells : List Cell) : Option ((Char → Bool) × List Cell) :=
  let negated := match cells with
    | ('!', false) :: _ => true
    | ('^', false) :: _ => true
    | _ => false
  let cells := if negated then cells.tail else cells
  (members (cells.length + 1) true cells).map fun (ms, rest) =>
    (fun c => ms.any (·.holds c) != negated, rest)

/-- The branches of a choice up to the parenthesis that closes it, and what comes after. -/
def branches : Nat → Nat → List Cell → List (List Cell) → List Cell →
    Option (List (List Cell) × List Cell)
  | 0, _, _, _, _ => none
  | _ + 1, _, _, _, [] => none
  | n + 1, depth, current, done, (c, q) :: rest =>
    if q then branches n depth ((c, q) :: current) done rest
    else if c = ')' then
      match depth with
      | 0 => some ((current.reverse :: done).reverse, rest)
      | depth + 1 => branches n depth ((c, q) :: current) done rest
    else if c = '(' then branches n (depth + 1) ((c, q) :: current) done rest
    else if c = '|' ∧ depth = 0 then branches n depth [] (current.reverse :: done) rest
    else branches n depth ((c, q) :: current) done rest

/-- Whether a text matches a pattern. The first argument bounds the depth of the search. -/
def matchesWithin (extended : Bool) : Nat → List Cell → List Char → Bool
  | 0, _, _ => false
  | _ + 1, [], text => text.isEmpty
  | n + 1, (c, true) :: pattern, text =>
    match text with
    | d :: text => c == d && matchesWithin extended n pattern text
    | [] => false
  | n + 1, (c, false) :: pattern, text =>
    let choice := if extended && ['?', '*', '+', '@', '!'].contains c then
        match pattern with
        | ('(', false) :: rest => branches (rest.length + 1) 0 [] [] rest
        | _ => none
      else none
    match choice with
    | some (alternatives, after) =>
      let splits := (List.range (text.length + 1)).map fun i => (text.take i, text.drop i)
      let fits (part : List Char) : Bool := alternatives.any (matchesWithin extended n · part)
      let skipped := matchesWithin extended n after text
      if c = '@' then
        splits.any fun (part, rest) => fits part && matchesWithin extended n after rest
      else if c = '?' then
        skipped || splits.any fun (part, rest) => fits part && matchesWithin extended n after rest
      else if c = '!' then
        splits.any fun (part, rest) => !fits part && matchesWithin extended n after rest
      else
        let again : List Cell := ('*', false) :: pattern
        (c = '*' && skipped) || splits.any fun (part, rest) =>
          !part.isEmpty && fits part && matchesWithin extended n again rest
    | none =>
      if c = '*' then
        matchesWithin extended n pattern text ||
          match text with
          | _ :: text => matchesWithin extended n ((c, false) :: pattern) text
          | [] => false
      else
        match text with
        | [] => false
        | d :: text =>
          if c = '?' then matchesWithin extended n pattern text
          else if c = '\\' then
            match pattern with
            | (e, _) :: pattern => e == d && matchesWithin extended n pattern text
            | [] => d == '\\' && text.isEmpty
          else if c = '[' then
            match set? pattern with
            | some (isMember, pattern) => isMember d && matchesWithin extended n pattern text
            | none => d == '[' && matchesWithin extended n pattern text
          else c == d && matchesWithin extended n pattern text

/-- Whether a text matches a pattern. -/
def isMatch (extended : Bool) (pattern : List Cell) (text : String) : Bool :=
  matchesWithin extended (pattern.length + text.length + 2) pattern text.toList

/-- How patterns of paths are understood: with choices, with names that begin with a dot, with two
stars for directories at any depth, without regard to case, and with the directory itself and the
one above it. -/
structure Manner where
  choices : Bool
  hidden : Bool
  deep : Bool
  ignoresCase : Bool
  withDots : Bool

/-- Without regard to case, letters match as the small ones. -/
def folded (pattern : List Cell) : List Cell := pattern.map fun (c, q) => (c.toLower, q)

/-- Whether a text matches a pattern, perhaps without regard to case. -/
def fits (choices ignoresCase : Bool) (pattern : List Cell) (text : String) : Bool :=
  if ignoresCase then isMatch choices (folded pattern) (text.map Char.toLower)
    else isMatch choices pattern text

/-- Whether a pattern holds anything that is not plain text. -/
def isActive (extended : Bool) (pattern : List Cell) : Bool :=
  pattern.any fun (c, q) => !q && (c = '*' || c = '?' || c = '[' || (extended && c = '('))

/-- A pattern of a path, cut at its slashes. -/
def names : List Cell → List (List Cell)
  | [] => [[]]
  | (c, q) :: rest =>
    match names rest with
    | [] => [[(c, q)]]
    | name :: more => if c = '/' then [] :: name :: more else ((c, q) :: name) :: more

/-- The names of a directory that match a pattern. A leading dot is matched only by a dot. -/
def matchingNames (m : Manner) (t : FileTree) (here : Place) (pattern : List Cell) :
    List String :=
  let startsWithDot := (pattern.head?.map (·.1)) = some '.'
  let all := (t.children here).map Octets.ofText
  let all := if startsWithDot && m.withDots then [".", ".."] ++ all else all
  all.filter fun name =>
    (m.hidden || startsWithDot || !name.startsWith ".") && fits m.choices m.ignoresCase pattern name

/-- The texts that begin with one text and go on to a directory at any depth, or to anything there.
The first argument bounds the depth. -/
def everyDepth (m : Manner) (t : FileTree) (directoriesOnly : Bool) :
    Nat → Place → String → List String
  | 0, _, _ => []
  | n + 1, here, start =>
    let names := ((t.children here).map Octets.ofText).filter fun name =>
      m.hidden || !name.startsWith "."
    names.flatMap fun name =>
      let there := here ++ [Octets.toText name]
      if t.isDirectoryAt there then
        (if directoriesOnly then [start ++ name ++ "/"] else [start ++ name]) ++
          everyDepth m t directoriesOnly n there (start ++ name ++ "/")
      else if directoriesOnly then [] else [start ++ name]

/-- The paths that begin with one of some texts and go on as the names of a pattern. -/
def pathsFrom (m : Manner) (t : FileTree) (cwd : Place) :
    List (List Cell) → List String → List String
  | [], found => found
  | name :: rest, found =>
    let isLast := rest.isEmpty
    let step (start : String) : List String :=
      let here := if start = "" then .ok cwd else t.find cwd ⟨Octets.toText start⟩
      match here with
      | .error _ => []
      | .ok here =>
        if m.deep && name = active "**" then
          (if isLast then if start = "" then [] else [start] else [start]) ++
          everyDepth m t (!isLast) 100 here start
        else if isActive m.choices name then
          ((matchingNames m t here name).filter fun s =>
            isLast || t.isDirectoryAt ((t.find here ⟨Octets.toText s⟩).toOption.getD [""])).map
              fun s => start ++ s ++ if isLast then "" else "/"
        else
          let s := start ++ textOf name
          if isLast then
            if textOf name = "" then [s]
            else if (t.locateEntry cwd ⟨Octets.toText s⟩).isOk then [s] else []
          else [s ++ "/"]
    pathsFrom m t cwd rest (found.flatMap step)

/-- The paths that match a pattern, in the order of texts. -/
def paths (m : Manner) (t : FileTree) (cwd : Place) (pattern : List Cell) : List String :=
  let found := (pathsFrom m t cwd (names pattern) [""]).filter (· != "")
  (found.mergeSort fun a b => decide (a ≤ b)).eraseReps

end Glob

end CiHarness
