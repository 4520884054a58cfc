import CiHarness.Host.Escape
import CiHarness.Host.Shell.Script
import CiHarness.Text.Pieces

/-!
# Reading scripts

A script is read from its characters, one line of commands at a time, so that what stands before a
mistake can be run. A keyword counts only where a command may begin and only if no part of it is
quoted. The text of a here-document is cut out of what follows its line as soon as its mark is read.
-/
namespace CiHarness.Shell

/-- Why a script cannot be read on, and in which line. -/
structure Mistake where
  line : Nat
  words : String

/-- What is left to be read. -/
structure Source where
  rest : List Char
  line : Nat
  /-- Whether the forms of the extended shell are known. -/
  extended : Bool
  /-- Texts that stand for the first words of commands. -/
  aliases : List (String × String)
  /-- The words that such a text was put in for, each with the length of what stands after it: there
  the word is no more than itself. -/
  expanding : List (String × Nat)

/-- The source of a text, from some line on. -/
def Source.ofText (text : String) (line : Nat) (extended : Bool) : Source :=
  ⟨text.toList, line, extended, [], []⟩

/-- Something that is read from a source. -/
abbrev Reading := StateT Source (Except Mistake)

namespace Reading

/-- The script cannot be read. -/
def fail {α : Type} (words : String) : Reading α := fun s => .error ⟨s.line, words⟩

def rest : Reading (List Char) := return (← get).rest

def isExtended : Reading Bool := return (← get).extended

/-- Some characters are passed over. -/
def skip (n : Nat) : Reading Unit := modify fun s =>
  { s with rest := s.rest.drop n, line := s.line + (s.rest.take n).count '\n' }

def isAt (mark : String) : Reading Bool := return mark.toList.isPrefixOf (← rest)

/-- A mark is passed over if it comes next. -/
def take (mark : String) : Reading Bool := do
  if ← isAt mark then
    skip mark.length
    return true
  return false

/-- The characters that end a word. -/
def isMeta (c : Char) : Bool :=
  [' ', '\t', '\n', ';', '&', '|', '<', '>', '(', ')'].contains c

/-- Blanks, lines that go on and comments are passed over. -/
def skipBlanks : Reading Unit := modify fun s =>
  let (rest, line) := go (s.rest.length + 1) s.rest s.line
  { s with rest := rest, line := line }
where
  go : Nat → List Char → Nat → List Char × Nat
    | n + 1, ' ' :: cs, line => go n cs line
    | n + 1, '\t' :: cs, line => go n cs line
    | n + 1, '\\' :: '\n' :: cs, line => go n cs (line + 1)
    | _, '#' :: cs, line => (cs.dropWhile (· != '\n'), line)
    | _, cs, line => (cs, line)

/-- Empty lines are passed over too. -/
def skipLines : Nat → Reading Unit
  | 0 => pure ()
  | n + 1 => do
    skipBlanks
    if ← take "\n" then skipLines n

def skipAllLines : Reading Unit := do skipLines ((← rest).length + 1)

/-- Letters, digits and the underscore make a name, which does not begin with a digit. -/
def isNameChar (c : Char) : Bool := c.isAlphanum || c = '_'

def isName (s : String) : Bool :=
  s.toList.head?.any (fun c => isNameChar c && !c.isDigit) && s.all isNameChar

/-- The plain word that comes next; none if any part of it is quoted or replaced. -/
def bareWord? : Reading (Option String) := do
  let cs := (← rest).takeWhile (!isMeta ·)
  let isActive (c : Char) : Bool := ['\\', '\x27', '"', '$', '\x60'].contains c
  return if cs.isEmpty || cs.any isActive then none else some (String.ofList cs)

/-- The first word of a command is replaced by the text that it stands for, if there is one. -/
def replaceAlias : Reading Bool := do
  let s ← get
  if s.aliases.isEmpty then return false
  match ← bareWord? with
  | none => return false
  | some name =>
    let after := s.rest.drop name.length
    let isInside := s.expanding.any fun (n, length) => n = name && length < s.rest.length
    match s.aliases.lookup name with
    | some text =>
      if isInside then return false
      set { s with rest := text.toList ++ after, expanding := (name, after.length) :: s.expanding }
      return true
    | none => return false

/-- A keyword is taken if it comes next. -/
def takeKeyword (keyword : String) : Reading Bool := do
  skipBlanks
  if (← bareWord?) = some keyword then
    skip keyword.length
    return true
  return false

/-- What comes next, as a mistake names it. -/
def nextToken : Reading String := do
  skipBlanks
  match ← rest with
  | [] => return "end of file"
  | '\n' :: _ => return "newline"
  | c :: _ => match ← bareWord? with
    | some word => return "\"" ++ word ++ "\""
    | none => return if isMeta c then "\"" ++ c.toString ++ "\"" else "word"

/-- Something else would have to come next. -/
def unexpected {α : Type} (expecting : String) : Reading α := do
  let token ← nextToken
  fail ("Syntax error: " ++ token ++ " unexpected" ++
    if expecting = "" then "" else " (expecting \"" ++ expecting ++ "\")")

def demandKeyword (keyword : String) : Reading Unit := do
  if !(← takeKeyword keyword) then unexpected keyword

/-- Characters up to a mark, which is passed over. -/
def upTo (mark : Char) (complaint : String) : Reading (List Char) := do
  let cs ← rest
  let inside := cs.takeWhile (· != mark)
  if inside.length = cs.length then fail complaint
  skip (inside.length + 1)
  return inside

/-- Something is read from other characters, all of which it must take. -/
def within {α : Type} (cs : List Char) (r : Reading α) : Reading α := fun s =>
  match r { s with rest := cs } with
  | .error m => .error m
  | .ok (a, inner) =>
    if inner.rest.isEmpty then .ok (a, s)
    else .error ⟨s.line, "Syntax error: word unexpected"⟩

/-! ## Parts of words -/

/-- A character is put at the end of a word that is held last part first. -/
def addChar (parts : Word) (c : Char) (quoted : Bool) : Word :=
  match parts with
  | .text t q :: rest =>
    if q = quoted then .text (t.push c) q :: rest else .text c.toString quoted :: parts
  | _ => .text c.toString quoted :: parts

/-- The escapes between `$'` and `'`. -/
def quoteEscapes : Escapes :=
  ⟨false, true, ['"', '\x27', '?'], ['e', 'E'], true, true, false⟩

/-- The text between `$'` and `'`, up to a quote that is not escaped. -/
def controlQuote : Nat → List Char → List Char → Option (List Char × List Char)
  | 0, _, _ => none
  | _ + 1, _, [] => none
  | n + 1, reversed, '\\' :: c :: cs => controlQuote n (c :: '\\' :: reversed) cs
  | n + 1, reversed, c :: cs =>
    if c = '\x27' then some (reversed.reverse, cs) else controlQuote n (c :: reversed) cs

/-- The script between backquotes, and what comes after; a backslash before a backquote, a dollar, a
backslash or, inside of quotes, a quote, is taken away. -/
def backquoted : Nat → Bool → List Char → List Char → Option (List Char × List Char)
  | 0, _, _, _ => none
  | _ + 1, _, _, [] => none
  | n + 1, quoted, reversed, '\\' :: c :: cs =>
    if c = '\x60' ∨ c = '\\' ∨ c = '$' ∨ (quoted ∧ c = '"') then
      backquoted n quoted (c :: reversed) cs
    else backquoted n quoted (c :: '\\' :: reversed) cs
  | n + 1, quoted, reversed, c :: cs =>
    if c = '\x60' then some (reversed.reverse, cs) else backquoted n quoted (c :: reversed) cs

/-- The expression up to two closing parentheses, and what comes after; none if they do not come
together. -/
def sumText : Nat → Nat → List Char → List Char → Option (List Char × List Char)
  | 0, _, _, _ => none
  | _ + 1, _, _, [] => none
  | n + 1, 0, reversed, ')' :: cs =>
    match cs with
    | ')' :: cs => some (reversed.reverse, cs)
    | _ => let _ := n; none
  | n + 1, depth + 1, reversed, ')' :: cs => sumText n depth (')' :: reversed) cs
  | n + 1, depth, reversed, '(' :: cs => sumText n (depth + 1) ('(' :: reversed) cs
  | n + 1, depth, reversed, c :: cs => sumText n depth (c :: reversed) cs

/-- The name of a variable that comes next: a name, digits, or one of the marks; empty if none. -/
def parameterName (manyDigits : Bool) : Reading String := do
  let cs ← rest
  match cs with
  | [] => return ""
  | c :: _ =>
    let name := if c.isDigit then if manyDigits then cs.takeWhile Char.isDigit else [c]
      else if isNameChar c then cs.takeWhile isNameChar
      else if ['@', '*', '#', '?', '-', '$', '!'].contains c then [c] else []
    skip name.length
    return String.ofList name

/-- Whether a word after a duplication is no descriptor but the name of a file. -/
def namesFile (w : Word) : Bool :=
  match w with
  | [.text s false] => !(s == "-" || s.all fun (c : Char) => c.isDigit)
  | .text _ _ :: _ => true
  | _ => false

/-- The end of a here-document's mark: its text, and whether any part of it was quoted. -/
def hereMark : Nat → List Char → Bool → List Char → List Char × Bool × List Char
  | 0, reversed, quoted, cs => (reversed.reverse, quoted, cs)
  | _ + 1, reversed, quoted, [] => (reversed.reverse, quoted, [])
  | n + 1, reversed, quoted, c :: cs =>
    if isMeta c then (reversed.reverse, quoted, c :: cs)
    else if c = '\x27' ∨ c = '"' then
      hereMark n ((cs.takeWhile (· != c)).reverse ++ reversed) true (cs.dropWhile (· != c)).tail
    else if c = '\\' then
      match cs with
      | d :: cs => hereMark n (d :: reversed) true cs
      | [] => (reversed.reverse, true, [])
    else hereMark n (c :: reversed) quoted cs

/-- What is left of the present line, with its line break, and the lines after it. A line break
between quotes does not end the line. -/
def lineAndAfter : Nat → Option Char → List Char → List Char → List Char × List Char
  | 0, _, reversed, cs => (reversed.reverse, cs)
  | _ + 1, _, reversed, [] => (reversed.reverse, [])
  | n + 1, quote, reversed, c :: cs =>
    match quote with
    | some q =>
      if c = '\\' ∧ q = '"' then
        lineAndAfter n quote (cs.take 1 ++ c :: reversed) cs.tail
      else lineAndAfter n (if c = q then none else quote) (c :: reversed) cs
    | none =>
      if c = '\n' then (('\n' :: reversed).reverse, cs)
      else if c = '\x27' ∨ c = '"' then lineAndAfter n (some c) (c :: reversed) cs
      else if c = '\\' then lineAndAfter n quote (cs.take 1 ++ c :: reversed) cs.tail
      else lineAndAfter n quote (c :: reversed) cs

/-- The lines of a here-document up to its mark, and what comes after them. -/
def hereLines (mark : List Char) (strips : Bool) : List (List Char) → List Char × List Char
  | [] => ([], [])
  | line :: lines =>
    let line := if strips then line.dropWhile (· = '\t') else line
    if line = mark ∨ line = mark ++ ['\n'] then ([], lines.flatten)
    else
      let (text, after) := hereLines mark strips lines
      (line ++ text, after)

/-! ## Words and scripts -/

/-- The words that end a list of commands. -/
def closing : List String := ["then", "elif", "else", "fi", "do", "done", "esac", "\x7d"]

/-- Whether a list of commands ends here. -/
def isClosed : Reading Bool := do
  skipBlanks
  match ← rest with
  | [] => return true
  | c :: cs =>
    if c = ')' then return true
    if c = ';' ∧ (cs.head? = some ';' ∨ cs.head? = some '&') then return true
    return ((← bareWord?).any closing.contains)

/-- A name and what is assigned to it, if a word has that form. -/
def assignment? (extended : Bool) (w : Word) : Option Assignment :=
  match w with
  | .text t false :: more =>
    let name := t.toList.takeWhile isNameChar
    let after := t.toList.drop name.length
    if !isName (String.ofList name) then none
    else
      let valueOf (cs : List Char) : Word :=
        if cs.isEmpty then more else .text (String.ofList cs) false :: more
      match after with
      | '=' :: cs => some (.single (String.ofList name) none false (valueOf cs))
      | '+' :: '=' :: cs =>
        if extended then some (.single (String.ofList name) none true (valueOf cs)) else none
      | '[' :: cs =>
        if extended then indexed (String.ofList name)
          (.text (String.ofList cs) false :: more) [] else none
      | _ => none
  | _ => none
where
  /-- An index, and the value after the bracket that closes it. -/
  indexed (name : String) : Word → Word → Option Assignment
    | [], _ => none
    | .text t false :: more, before =>
      let cs := t.toList
      let inside := cs.takeWhile (· != ']')
      match cs.drop inside.length with
      | ']' :: '=' :: value =>
        some (.single name (some (before ++ [.text (String.ofList inside) false])) false
          (.text (String.ofList value) false :: more))
      | ']' :: '+' :: '=' :: value =>
        some (.single name (some (before ++ [.text (String.ofList inside) false])) true
          (.text (String.ofList value) false :: more))
      | _ => indexed name more (before ++ [.text t false])
    | p :: more, before => indexed name more (before ++ [p])

/-- A list of commands with one more at its end. -/
def append (first second : Script) : Script :=
  match first, second with
  | .nothing, s => s
  | s, .nothing => s
  | s, t => .sequence s t

/-- The keywords that begin a command made of others. -/
def compoundWords : List String :=
  ["if", "for", "while", "until", "case", "select", "[[", "function", "\x7b"]

mutual

/-- A word; empty if none comes next. The first argument bounds the depth of what is read. -/
def word : Nat → Word → Reading Word
  | 0, _ => fail "Syntax error: nested too deeply"
  | n + 1, parts => do
    match ← rest with
    | [] => return parts.reverse
    | c :: cs =>
      if c = '\\' then
        match cs with
        | [] => skip 1; return (addChar parts '\\' true).reverse
        | '\n' :: _ => skip 2; word n parts
        | d :: _ => skip 2; word n (addChar parts d true)
      else if c = '\x27' then do
        skip 1
        let inside ← upTo '\x27' "Syntax error: Unterminated quoted string"
        word n (.text (String.ofList inside) true :: parts)
      else if c = '"' then do
        skip 1
        let inside ← double n []
        word n ((if inside.isEmpty then [.text "" true] else inside.reverse) ++ parts)
      else if c = '$' then do
        skip 1
        word n ((← dollar n false).reverse ++ parts)
      else if c = '\x60' then do
        skip 1
        word n ((← backquote n false) :: parts)
      else if (c = '<' ∨ c = '>') ∧ cs.head? = some '(' ∧ (← isExtended) then do
        skip 2
        let body ← list n
        if !(← take ")") then unexpected ")"
        word n (.channel body (c = '<') :: parts)
      else if isMeta c then return parts.reverse
      else do
        skip 1
        word n (addChar parts c false)

/-- The parts between double quotes, the first of which has been taken. -/
def double : Nat → Word → Reading Word
  | 0, _ => fail "Syntax error: nested too deeply"
  | n + 1, parts => do
    match ← rest with
    | [] => fail "Syntax error: Unterminated quoted string"
    | c :: cs =>
      if c = '"' then skip 1; return parts.reverse
      else if c = '\\' then
        match cs with
        | [] => fail "Syntax error: Unterminated quoted string"
        | '\n' :: _ => skip 2; double n parts
        | d :: _ =>
          skip 2
          if d = '"' ∨ d = '\\' ∨ d = '$' ∨ d = '\x60' then double n (addChar parts d true)
          else double n (addChar (addChar parts '\\' true) d true)
      else if c = '$' then do
        skip 1
        double n ((← dollar n true).reverse ++ parts)
      else if c = '\x60' then do
        skip 1
        double n ((← backquote n true) :: parts)
      else do
        skip 1
        double n (addChar parts c true)

/-- The parts of a text in which only values, outputs and sums are replaced. -/
def plainText : Nat → Word → Reading Word
  | 0, _ => fail "Syntax error: nested too deeply"
  | n + 1, parts => do
    match ← rest with
    | [] => return parts.reverse
    | c :: cs =>
      if c = '\\' then
        match cs with
        | [] => skip 1; return (addChar parts '\\' true).reverse
        | '\n' :: _ => skip 2; plainText n parts
        | d :: _ =>
          skip 2
          if d = '\\' ∨ d = '$' ∨ d = '\x60' then plainText n (addChar parts d true)
          else plainText n (addChar (addChar parts '\\' true) d true)
      else if c = '$' then do
        skip 1
        plainText n ((← dollar n true).reverse ++ parts)
      else if c = '\x60' then do
        skip 1
        plainText n ((← backquote n true) :: parts)
      else do
        skip 1
        plainText n (addChar parts c true)

/-- A script between backquotes, the first of which has been taken. -/
def backquote : Nat → Bool → Reading Part
  | 0, _ => fail "Syntax error: nested too deeply"
  | n + 1, quoted => do
    let cs ← rest
    match backquoted (cs.length + 1) quoted [] cs with
    | none => fail "Syntax error: EOF in backquote substitution"
    | some (inside, after) =>
      skip (cs.length - after.length)
      return .output (← within inside (list n)) quoted

/-- What a dollar, which has been taken, stands for. -/
def dollar : Nat → Bool → Reading Word
  | 0, _ => fail "Syntax error: nested too deeply"
  | n + 1, quoted => do
    let cs ← rest
    match cs with
    | '(' :: '(' :: inner =>
      match sumText (inner.length + 1) 0 [] inner with
      | some (expression, after) =>
        skip (cs.length - after.length)
        return [.sum (← within expression (plainText n [])) quoted]
      | none =>
        skip 1
        output n quoted
    | '(' :: _ => skip 1; output n quoted
    | '\x7b' :: _ => skip 1; return [← braced n quoted]
    | '[' :: inner =>
      let inside := inner.takeWhile (· != ']')
      if !(← isExtended) || inside.length = inner.length then return [.text "$" quoted]
      skip (inside.length + 2)
      return [.sum (← within inside (plainText n [])) quoted]
    | '\x27' :: inner =>
      if quoted || !(← isExtended) then return [.text "$" quoted]
      match controlQuote (inner.length + 1) [] inner with
      | none => fail "Syntax error: Unterminated quoted string"
      | some (inside, after) =>
        skip (cs.length - after.length)
        return [.text (quoteEscapes.replaced (String.ofList inside)) true]
    | '"' :: _ => return if !quoted && (← isExtended) then [] else [.text "$" quoted]
    | _ =>
      let name ← parameterName false
      return if name = "" then [.text "$" quoted] else [.value name none .none quoted]

/-- A script between parentheses, the first of which has been taken. -/
def output : Nat → Bool → Reading Word
  | 0, _ => fail "Syntax error: nested too deeply"
  | n + 1, quoted => do
    let body ← list n
    if !(← take ")") then unexpected ")"
    return [.output body quoted]

/-- A value between braces, the first of which has been taken. -/
def braced : Nat → Bool → Reading Part
  | 0, _ => fail "Syntax error: nested too deeply"
  | n + 1, quoted => do
    let extended ← isExtended
    let cs ← rest
    let next := cs.tail.head?
    if cs.head? = some '#' ∧
        next.any (fun c => isNameChar c || ['@', '*', '?', '$', '!', '#', '-'].contains c)
        ∧ !(next = some '-' ∧ cs[2]? != some '\x7d') ∧ !(next = some '?' ∧ cs[2]? != some '\x7d')
        ∧ !(next = some '#' ∧ cs[2]? != some '\x7d') then
      skip 1
      let name ← parameterName true
      let index ← index? n
      if !(← take "\x7d") then return ← unknownForm n
      return .value name index .length quoted
    let isIndirect := extended && cs.head? = some '!' &&
      (next.any (fun c => isNameChar c || c = '@' || c = '*') ||
      ((next = some '#' || next = some '?' || next = some '!') && cs[2]? = some '\x7d'))
    if isIndirect then skip 1
    let name ← parameterName true
    if name = "" then return ← unknownForm n
    if isIndirect && ((← take "*\x7d") || (← take "@\x7d")) then
      return .value name none .names quoted
    let index ← index? n
    if ← take "\x7d" then
      return match isIndirect, index with
        | false, _ => .value name index .none quoted
        | true, some [.text "@" _] => .value name index .keys quoted
        | true, some [.text "*" _] => .value name index .keys quoted
        | true, _ => .value name index (.indirect .none) quoted
    let op ← rest
    let operand (width : Nat) : Reading Word := do
      skip width
      operandWord n quoted ['\x7d'] []
    let change : Option (Reading Change) :=
      match op with
      | ':' :: '-' :: _ => some (return .fallback true (← operand 2))
      | ':' :: '=' :: _ => some (return .assign true (← operand 2))
      | ':' :: '?' :: _ => some (return .demand true (← operand 2))
      | ':' :: '+' :: _ => some (return .alternative true (← operand 2))
      | '-' :: _ => some (return .fallback false (← operand 1))
      | '=' :: _ => some (return .assign false (← operand 1))
      | '?' :: _ => some (return .demand false (← operand 1))
      | '+' :: _ => some (return .alternative false (← operand 1))
      | '%' :: '%' :: _ =>
        some do skip 2; return .trim true true (← operandWord n false ['\x7d'] [])
      | '%' :: _ => some do skip 1; return .trim true false (← operandWord n false ['\x7d'] [])
      | '#' :: '#' :: _ =>
        some do skip 2; return .trim false true (← operandWord n false ['\x7d'] [])
      | '#' :: _ => some do skip 1; return .trim false false (← operandWord n false ['\x7d'] [])
      | ':' :: _ =>
        if extended then some do
          skip 1
          let offset ← operandWord n true [':', '\x7d'] []
          let count ← if ← take ":" then some <$> operandWord n true ['\x7d'] [] else pure none
          return .slice offset count
        else none
      | '/' :: anchor :: _ =>
        if extended then some do
          let kind := if anchor = '/' then Anchor.everywhere else if anchor = '#' then .front
            else if anchor = '%' then .back else .first
          skip (if kind = .first then 1 else 2)
          let pattern ← operandWord n false ['/', '\x7d'] []
          let replacement ← if ← take "/" then operandWord n quoted ['\x7d'] [] else pure []
          return .replace kind pattern replacement
        else none
      | '^' :: '^' :: _ =>
        if extended then
          some do skip 2; return .recase true true (← operandWord n false ['\x7d'] [])
        else none
      | '^' :: _ =>
        if extended then
          some do skip 1; return .recase true false (← operandWord n false ['\x7d'] [])
        else none
      | ',' :: ',' :: _ =>
        if extended then
          some do skip 2; return .recase false true (← operandWord n false ['\x7d'] [])
        else none
      | ',' :: _ =>
        if extended then
          some do skip 1; return .recase false false (← operandWord n false ['\x7d'] [])
        else none
      | '@' :: letter :: _ =>
        if extended then some do skip 2; return .transform letter else none
      | _ => none
    match change with
    | none => unknownForm n
    | some change =>
      let change ← change
      if !(← take "\x7d") then fail "Syntax error: Missing '\x7d'"
      return .value name index (if isIndirect then .indirect change else change) quoted

/-- A form that is not known, up to its closing brace. -/
def unknownForm : Nat → Reading Part
  | 0 => fail "Syntax error: nested too deeply"
  | n + 1 => do
    let _ ← operandWord n false ['\x7d'] []
    if !(← take "\x7d") then fail "Syntax error: Missing '\x7d'"
    return .value "" none .unknown false

/-- An index between brackets, if one comes next. -/
def index? : Nat → Reading (Option Word)
  | 0 => fail "Syntax error: nested too deeply"
  | n + 1 => do
    if !(← isExtended) then return none
    if !(← take "[") then return none
    let index ← operandWord n false [']'] []
    if !(← take "]") then fail "Syntax error: Missing ']'"
    return some index

/-- A word inside of braces, up to one of some marks, which is not taken. -/
def operandWord : Nat → Bool → List Char → Word → Reading Word
  | 0, _, _, _ => fail "Syntax error: nested too deeply"
  | n + 1, quoted, marks, parts => do
    match ← rest with
    | [] => fail "Syntax error: Missing '\x7d'"
    | c :: cs =>
      if marks.contains c then return parts.reverse
      else if c = '\\' then
        match cs with
        | [] => fail "Syntax error: Missing '\x7d'"
        | '\n' :: _ => skip 2; operandWord n quoted marks parts
        | d :: _ =>
          skip 2
          if !quoted || d = '"' || d = '\\' || d = '$' || d = '\x60' || d = '\x7d' then
            operandWord n quoted marks (addChar parts d true)
          else operandWord n quoted marks (addChar (addChar parts '\\' true) d true)
      else if c = '\x27' ∧ !quoted then do
        skip 1
        let inside ← upTo '\x27' "Syntax error: Unterminated quoted string"
        operandWord n quoted marks (.text (String.ofList inside) true :: parts)
      else if c = '"' then do
        skip 1
        let inside ← double n []
        operandWord n quoted marks
          ((if inside.isEmpty then [.text "" true] else inside.reverse) ++ parts)
      else if c = '$' then do
        skip 1
        operandWord n quoted marks ((← dollar n quoted).reverse ++ parts)
      else if c = '\x60' then do
        skip 1
        operandWord n quoted marks ((← backquote n quoted) :: parts)
      else do
        skip 1
        operandWord n quoted marks (addChar parts c quoted)

/-- A redirection, if one comes next. -/
def redirect? : Nat → Reading (Option Redirect)
  | 0 => fail "Syntax error: nested too deeply"
  | n + 1 => do
    let cs ← rest
    let digits := cs.takeWhile Char.isDigit
    let after := cs.drop digits.length
    let extended ← isExtended
    if extended ∧ "&>>".toList.isPrefixOf cs then
      skip 3
      return some (.mk 1 .appendAll (← target n))
    if extended ∧ "&>".toList.isPrefixOf cs then
      skip 2
      return some (.mk 1 .writeAll (← target n))
    let holder := (cs.drop 1).takeWhile isNameChar
    if extended ∧ cs.head? = some '\x7b' ∧ isName (String.ofList holder) ∧
        (cs[holder.length + 1]? = some '\x7d') ∧
        (cs[holder.length + 2]? = some '<' ∨ cs[holder.length + 2]? = some '>') then
      skip (holder.length + 2)
      match ← redirect? n with
      | some (.mk _ direction target) =>
        return some (.named (String.ofList holder) direction target)
      | other => return other
    match after with
    | '<' :: more =>
      if more.head? = some '(' ∧ extended ∧ digits.isEmpty then return none
      skip (digits.length + 1)
      let descriptor := if digits.isEmpty then 0 else number digits
      if !extended ∧ (← isAt "<<") then fail "Syntax error: redirection unexpected"
      if extended ∧ (← take "<<") then
        return some (.mk descriptor .here ((← target n) ++ [.text "\n" true]))
      if ← take "<-" then return some (.mk descriptor .here (← hereDocument n true))
      if ← take "<" then return some (.mk descriptor .here (← hereDocument n false))
      if ← take "&" then return some (.mk descriptor .duplicate (← target n))
      if ← take ">" then return some (.mk descriptor .readWrite (← target n))
      return some (.mk descriptor .read (← target n))
    | '>' :: more =>
      if more.head? = some '(' ∧ extended ∧ digits.isEmpty then return none
      skip (digits.length + 1)
      let descriptor := if digits.isEmpty then 1 else number digits
      if ← take ">" then return some (.mk descriptor .append (← target n))
      if ← take "&" then
        let w ← target n
        let isPlain := extended && digits.isEmpty
        return some (if isPlain && namesFile w then .mk 1 .writeAll w
          else .mk descriptor .duplicate w)
      if ← take "|" then return some (.mk descriptor .overwrite (← target n))
      return some (.mk descriptor .write (← target n))
    | _ => return none
where
  number (digits : List Char) : Nat := digits.foldl (fun n d => 10 * n + (d.toNat - 48)) 0

/-- The word that a redirection leads to. -/
def target : Nat → Reading Word
  | 0 => fail "Syntax error: nested too deeply"
  | n + 1 => do
    skipBlanks
    let w ← word n []
    if w.isEmpty then unexpected "" else return w

/-- The text of a here-document, whose mark comes next. -/
def hereDocument : Nat → Bool → Reading Word
  | 0, _ => fail "Syntax error: nested too deeply"
  | n + 1, strips => do
    skipBlanks
    let cs ← rest
    let (mark, quoted, after) := hereMark (cs.length + 1) [] false cs
    let (line, below) := lineAndAfter (after.length + 1) none [] after
    let lines := (Text.pieces '\n' below)
    let lines := (lines.dropLast.map (· ++ ['\n'])) ++ (lines.getLast?.filter (!·.isEmpty)).toList
    let (text, left) := hereLines mark strips lines
    modify fun s => { s with rest := line ++ left }
    if quoted then return [.text (String.ofList text) true]
    return ← within text (plainText n [])

/-- Redirections after a command. -/
def redirects : Nat → Reading (List Redirect)
  | 0 => fail "Syntax error: nested too deeply"
  | n + 1 => do
    skipBlanks
    match ← redirect? n with
    | some r => return r :: (← redirects n)
    | none => return []

/-- The rest of a simple command, whose beginnings are held in reverse. -/
def simple : Nat → Nat → List Assignment → List Word → List Redirect → Reading Script
  | 0, _, _, _, _ => fail "Syntax error: nested too deeply"
  | n + 1, line, assignments, words, redirects => do
    skipBlanks
    match ← redirect? n with
    | some r => simple n line assignments words (r :: redirects)
    | none =>
      let w ← word n []
      if w.isEmpty then
        if assignments.isEmpty ∧ words.isEmpty ∧ redirects.isEmpty then unexpected ""
        return .simple line assignments.reverse words.reverse redirects.reverse
      let extended ← isExtended
      let declares := words.getLast?.bind bareText? |>.any
        ["declare", "typeset", "local", "readonly", "export"].contains
      if words.isEmpty || (extended && declares) then
        match assignment? extended w with
        | some a =>
          if extended ∧ (← isAt "(") then
            match a with
            | .single name none adds [] =>
              skip 1
              let a : Assignment := .several name adds (← elements n)
              simple n line (a :: assignments)
                (if words.isEmpty then words else [.text name false] :: words) redirects
            | _ => unexpected ""
          else if words.isEmpty then simple n line (a :: assignments) words redirects
          else simple n line assignments (w :: words) redirects
        | none =>
          skipBlanks
          if ← isAt "(" then
            match bareText? w, assignments, redirects with
            | some name, [], [] =>
              skip 1
              skipBlanks
              if !(← take ")") then unexpected ")"
              skipAllLines
              if extended && !(← isAt "\x7b") && !(← isAt "(") then
                let isBody := compoundWords.contains ((← bareWord?).getD "")
                if !isBody then unexpected ""
              return .define name (← command n)
            | _, _, _ => unexpected ""
          simple n line assignments (w :: words) redirects
      else simple n line assignments (w :: words) redirects

/-- The elements of a list up to the parenthesis that closes it. -/
def elements : Nat → Reading (List (Option Word × Word))
  | 0 => fail "Syntax error: nested too deeply"
  | n + 1 => do
    skipAllLines
    if ← take ")" then return []
    if ← take "[" then
      let key ← operandWord n false [']'] []
      if ← take "]=" then
        let w ← word n []
        return (some key, w) :: (← elements n)
      fail "Syntax error: Missing ']'"
    let w ← word n []
    if w.isEmpty then unexpected ")"
    return (none, w) :: (← elements n)

/-- Commands one after another, up to a closing keyword, a closing mark or the end. -/
def list : Nat → Reading Script
  | 0 => fail "Syntax error: nested too deeply"
  | n + 1 => do
    skipAllLines
    if ← isClosed then return .nothing
    let first ← chain n
    skipBlanks
    if (← isAt ";;") || (← isAt ";&") then return first
    if ← take ";" then return append first (← list n)
    if ← take "&" then return append (.background first) (← list n)
    if ← take "\n" then return append first (← list n)
    return first

/-- The commands of one line. -/
def lineOf : Nat → Reading Script
  | 0 => fail "Syntax error: nested too deeply"
  | n + 1 => do
    let first ← chain n
    skipBlanks
    let more (first : Script) : Reading Script := do
      skipBlanks
      match ← rest with
      | [] => return first
      | '\n' :: _ => return first
      | _ => return append first (← lineOf n)
    if ← isAt ";;" then unexpected ""
    if ← take ";" then return ← more first
    if ← take "&" then return ← more (.background first)
    match ← rest with
    | [] => return first
    | '\n' :: _ => return first
    | _ => unexpected ""

/-- Pipelines with `&&` and `||` between them, which bind equally and to the left. -/
def chain : Nat → Reading Script
  | 0 => fail "Syntax error: nested too deeply"
  | n + 1 => do links n (← pipeline n)

/-- The links of a chain after its first pipeline. -/
def links : Nat → Script → Reading Script
  | 0, _ => fail "Syntax error: nested too deeply"
  | n + 1, first => do
    skipBlanks
    if ← take "&&" then
      skipAllLines
      links n (.both first (← pipeline n))
    else if ← take "||" then
      skipAllLines
      links n (.either first (← pipeline n))
    else return first

/-- Commands with pipes between them. -/
def pipeline : Nat → Reading Script
  | 0 => fail "Syntax error: nested too deeply"
  | n + 1 => do
    if ← takeKeyword "!" then
      skipBlanks
      let ends := (← rest).isEmpty || ((← rest).head?.any [';', '\n', '&', ')'].contains) ||
        (← isAt "||")
      if (← isExtended) && ends then return .negated (.simple (← get).line [] [] [])
      return .negated (← pipeline n)
    if ← isExtended then
      if ← takeKeyword "time" then
        let _ ← takeKeyword "-p"
        return ← pipeline n
    match ← stages n with
    | [only] => return only
    | all => return .pipeline all

/-- The commands of a pipeline. -/
def stages : Nat → Reading (List Script)
  | 0 => fail "Syntax error: nested too deeply"
  | n + 1 => do
    let first ← command n
    skipBlanks
    if ← isAt "||" then return [first]
    if (← isExtended) && (← take "|&") then
      skipAllLines
      return .redirected first [.mk 2 .duplicate [.text "1" false]] :: (← stages n)
    if ← take "|" then
      skipAllLines
      return first :: (← stages n)
    return [first]

/-- One command: one made of others, with redirections after it, or a simple one. -/
def command : Nat → Reading Script
  | 0 => fail "Syntax error: nested too deeply"
  | n + 1 => do
    skipBlanks
    if ← replaceAlias then return ← command n
    let line := (← get).line
    let keyword := (← bareWord?).getD ""
    let extended ← isExtended
    let compound (r : Reading Script) : Reading Script := do
      let body ← r
      match ← redirects n with
      | [] => return body
      | rs => return .redirected body rs
    if extended ∧ (← isAt "((") then
      let cs ← rest
      let inner := cs.drop 2
      match sumText (inner.length + 1) 0 [] inner with
      | some (expression, after) =>
        skip (cs.length - after.length)
        return ← compound do return .reckoned (← within expression (plainText n []))
      | none => pure ()
    if ← isAt "(" then
      skip 1
      return ← compound do
        let body ← list n
        if !(← take ")") then unexpected ")"
        return .subshell body
    if keyword = "if" then skip 2; return ← compound (choice n)
    if keyword = "for" then skip 3; return ← compound (each n)
    if extended ∧ keyword = "select" then
      skip 6
      return ← compound do
        match ← each n with
        | .each name words body => return .menu name words body
        | _ => unexpected ""
    if keyword = "while" then skip 5; return ← compound (loop n false)
    if keyword = "until" then skip 5; return ← compound (loop n true)
    if keyword = "case" then skip 4; return ← compound (matching n)
    if keyword = "\x7b" then
      skip 1
      return ← compound do
        let body ← list n
        demandKeyword "\x7d"
        return body
    if extended ∧ keyword = "[[" then
      skip 2
      return ← compound do
        let c ← condition n
        skipAllLines
        if !(← take "]]") then unexpected "]]"
        return .judged c
    if extended ∧ keyword = "function" then
      skip 8
      skipBlanks
      let name := (← bareWord?).getD ""
      skip name.length
      skipBlanks
      if ← take "(" then
        skipBlanks
        if !(← take ")") then unexpected ")"
      skipAllLines
      return .define name (← command n)
    if closing.contains keyword then unexpected ""
    simple n line [] [] []

/-- A choice after its keyword `if` or `elif`. -/
def choice : Nat → Reading Script
  | 0 => fail "Syntax error: nested too deeply"
  | n + 1 => do
    let condition ← nonempty n "then"
    demandKeyword "then"
    let yes ← nonempty n "fi"
    if ← takeKeyword "elif" then return .choice condition yes (← choice n)
    if ← takeKeyword "else" then
      let no ← nonempty n "fi"
      demandKeyword "fi"
      return .choice condition yes no
    demandKeyword "fi"
    return .choice condition yes .nothing

/-- A list with at least one command. -/
def nonempty : Nat → String → Reading Script
  | 0, _ => fail "Syntax error: nested too deeply"
  | n + 1, expecting => do
    match ← list n with
    | .nothing => unexpected (if (← rest).isEmpty then expecting else "")
    | body => return body

/-- The body of a loop, between its keywords. -/
def body : Nat → Reading Script
  | 0 => fail "Syntax error: nested too deeply"
  | n + 1 => do
    skipAllLines
    if (← isExtended) && (← takeKeyword "\x7b") then
      let body ← list n
      demandKeyword "\x7d"
      return body
    demandKeyword "do"
    let body ← nonempty n "done"
    demandKeyword "done"
    return body

/-- A loop after the keyword `while` or `until`. -/
def loop : Nat → Bool → Reading Script
  | 0, _ => fail "Syntax error: nested too deeply"
  | n + 1, isUntil => do
    let condition ← nonempty n "do"
    return .loop isUntil condition (← body n)

/-- A loop after the keyword `for`; without words it goes through the parameters. -/
def each : Nat → Reading Script
  | 0 => fail "Syntax error: nested too deeply"
  | n + 1 => do
    skipBlanks
    if (← isExtended) && (← isAt "((") then
      let cs ← rest
      let inner := cs.drop 2
      match sumText (inner.length + 1) 0 [] inner with
      | none => unexpected "))"
      | some (expressions, after) =>
        skip (cs.length - after.length)
        let part (i : Nat) : Reading Word :=
          within ((Text.pieces ';' expressions).getD i []) (plainText n [])
        let start ← part 0
        let condition ← part 1
        let step ← part 2
        skipBlanks
        let _ ← take ";"
        return .counting start condition step (← body n)
    let name := (← bareWord?).getD ""
    if !isName name && !(← isExtended) then fail "Syntax error: Bad for loop variable"
    skip name.length
    skipAllLines
    if ← takeKeyword "in" then
      let words ← wordsOf n
      skipBlanks
      let _ ← take ";"
      return .each name (some words) (← body n)
    skipBlanks
    let _ ← take ";"
    return .each name none (← body n)

/-- Words up to the end of the line or a mark. -/
def wordsOf : Nat → Reading (List Word)
  | 0 => fail "Syntax error: nested too deeply"
  | n + 1 => do
    skipBlanks
    let w ← word n []
    if w.isEmpty then return [] else return w :: (← wordsOf n)

/-- Cases after the keyword `case`. -/
def matching : Nat → Reading Script
  | 0 => fail "Syntax error: nested too deeply"
  | n + 1 => do
    skipBlanks
    let subject ← word n []
    if subject.isEmpty then unexpected ""
    skipAllLines
    demandKeyword "in"
    return .matching subject (← cases n)

/-- The cases for a word, up to the keyword that ends them. -/
def cases : Nat → Reading (List (List Word × Script × CaseEnd))
  | 0 => fail "Syntax error: nested too deeply"
  | n + 1 => do
    skipAllLines
    if ← takeKeyword "esac" then return []
    let _ ← take "("
    let patterns ← patternsOf n
    let body ← list n
    skipBlanks
    if ← take ";;&" then return (patterns, body, .tryNext) :: (← cases n)
    if ← take ";;" then return (patterns, body, .stop) :: (← cases n)
    if ← take ";&" then return (patterns, body, .intoNext) :: (← cases n)
    demandKeyword "esac"
    return [(patterns, body, .stop)]

/-- The patterns of a case, up to the parenthesis after them. -/
def patternsOf : Nat → Reading (List Word)
  | 0 => fail "Syntax error: nested too deeply"
  | n + 1 => do
    skipBlanks
    let w ← word n []
    if w.isEmpty then unexpected ")"
    skipBlanks
    if ← take "|" then return w :: (← patternsOf n)
    if ← take ")" then return [w]
    unexpected ")"

/-- A condition between double brackets. -/
def condition : Nat → Reading Condition
  | 0 => fail "Syntax error: nested too deeply"
  | n + 1 => do
    let first ← conjunction n
    skipAllLines
    if ← take "||" then return .either first (← condition n) else return first

/-- Conditions of which all must hold. -/
def conjunction : Nat → Reading Condition
  | 0 => fail "Syntax error: nested too deeply"
  | n + 1 => do
    let first ← judgement n
    skipAllLines
    if ← take "&&" then return .both first (← conjunction n) else return first

/-- One condition. -/
def judgement : Nat → Reading Condition
  | 0 => fail "Syntax error: nested too deeply"
  | n + 1 => do
    skipAllLines
    if ← takeKeyword "!" then return .negated (← judgement n)
    if ← take "(" then
      let c ← condition n
      skipAllLines
      if !(← take ")") then unexpected ")"
      return c
    let op := (← bareWord?).getD ""
    if op.length = 2 ∧ op.startsWith "-" then
      skip 2
      skipAllLines
      if !(← isAt "]]") then
        let w ← word n []
        if !w.isEmpty then return .unary op w
      return .unary "-n" [.text op true]
    let left ← word n []
    if left.isEmpty then unexpected "]]"
    skipAllLines
    if ← take "<" then
      skipBlanks
      return .binary "<" left (← word n [])
    if ← take ">" then
      skipBlanks
      return .binary ">" left (← word n [])
    let op := (← bareWord?).getD ""
    if ["=", "==", "!=", "=~", "-eq", "-ne", "-lt", "-le", "-gt", "-ge", "-nt", "-ot",
        "-ef"].contains op then
      skip op.length
      skipBlanks
      return .binary op left (← if op = "=~" then expressionWord n 0 [] else word n [])
    return .unary "-n" left

/-- A regular expression, in which parentheses and bars are plain characters. -/
def expressionWord : Nat → Nat → Word → Reading Word
  | 0, _, _ => fail "Syntax error: nested too deeply"
  | n + 1, depth, parts => do
    let more ← word n parts
    match ← rest with
    | c :: _ =>
      if c = '(' ∨ c = '|' ∨ (c = ')' ∧ 0 < depth) ∨ (0 < depth ∧ (c = ' ' ∨ c = '<' ∨ c = '>'))
          then
        skip 1
        let depth := if c = '(' then depth + 1 else if c = ')' then depth - 1 else depth
        expressionWord n depth (addChar more.reverse c false)
      else return more
    | [] => return more

end

/-- How deep the reader may go for a text of some length. -/
def depthFor (length : Nat) : Nat := 24 * length + 200

/-- The commands of the next line of a source; none at its end. -/
def nextLine : Reading (Option Script) := do
  skipAllLines
  match ← rest with
  | [] => return none
  | cs => return some (← lineOf (depthFor cs.length))

end Reading

end CiHarness.Shell
