import CiHarness.Host.Escape
import CiHarness.Host.Regex

/-!
# Programs over records, as they are written

A program is a list of rules: a pattern that chooses records and an action for them, or an action
for the beginning or the end. Actions are made of statements, and statements of expressions; two
expressions side by side are joined to one text.
-/
namespace CiHarness.Awk

/-- An operator between two numbers. -/
inductive Operator where
  | add
  | subtract
  | multiply
  | divide
  | remainder
  | power
  deriving DecidableEq

/-- A comparison. -/
inductive Comparison where
  | less
  | lessOrEqual
  | equal
  | different
  | greater
  | greaterOrEqual
  deriving DecidableEq

inductive Expr where
  | number (x : Float)
  | text (s : String)
  | regex (r : Regex)
  | field (e : Expr)
  | var (name : String)
  | element (name : String) (index : List Expr)
  /-- A place is set, or changed by an operator. -/
  | assign (place : Expr) (op : Option Operator) (value : Expr)
  /-- A place is changed by one; its value counts from before or from after. -/
  | step (place : Expr) (isUp isAfter : Bool)
  | choice (condition yes no : Expr)
  | both (a b : Expr)
  | either (a b : Expr)
  | matching (isNegated : Bool) (e pattern : Expr)
  | isIn (index : List Expr) (name : String)
  | comparison (op : Comparison) (a b : Expr)
  | joined (a b : Expr)
  | binary (op : Operator) (a b : Expr)
  | negative (e : Expr)
  | positive (e : Expr)
  | opposite (e : Expr)
  | call (name : String) (args : List Expr)
  | getline (place : Option Expr) (file : Option Expr)
  /-- A line of what a command writes is read. -/
  | listen (command : Expr) (place : Option Expr)
  | grouped (e : Expr)

/-- Where output goes. -/
inductive Target where
  | standard
  | file (path : Expr)
  | appended (path : Expr)
  | command (text : Expr)

inductive Statement where
  | expr (e : Expr)
  | print (args : List Expr) (target : Target)
  | format (args : List Expr) (target : Target)
  | block (body : List Statement)
  | choice (condition : Expr) (yes no : Statement)
  | loop (condition : Expr) (body : Statement)
  | loopAfter (body : Statement) (condition : Expr)
  | counting (start : Statement) (condition : Option Expr) (step body : Statement)
  | each (name array : String) (body : Statement)
  | next
  | nextFile
  | exit (e : Option Expr)
  | answer (e : Option Expr)
  | leaveLoop
  | nextRound
  | delete (name : String) (index : List Expr)
  | nothing

/-- When an action is performed. -/
inductive Pattern where
  | atStart
  | atEnd
  | always
  | chosenBy (e : Expr)
  | between (first last : Expr)

structure Rule where
  pattern : Pattern
  action : Option Statement

structure Function where
  parameters : List String
  body : Statement

structure Program where
  rules : List Rule
  functions : List (String × Function)

/-! ## Reading -/

abbrev Reading := StateT (List Char) (Except String)

def fail {α : Type} (words : String) : Reading α := throw ("syntax error at or near " ++ words)

/-- Blanks, lines that go on, and comments. -/
def skipBlanks : Reading Unit := modify fun cs => go (cs.length + 1) cs
where
  go : Nat → List Char → List Char
    | n + 1, ' ' :: cs => go n cs
    | n + 1, '\t' :: cs => go n cs
    | n + 1, '\r' :: cs => go n cs
    | n + 1, '\\' :: '\n' :: cs => go n cs
    | _, '#' :: cs => cs.dropWhile (· != '\n')
    | _, cs => cs

/-- Line breaks too, and semicolons if they are empty statements. -/
def skipLines (semicolons : Bool) : Reading Unit := do
  for _ in List.range ((← get).length + 1) do
    skipBlanks
    match ← get with
    | '\n' :: cs => set cs
    | ';' :: cs => if semicolons then set cs
    | _ => pure ()

def isAt (mark : String) : Reading Bool := return mark.toList.isPrefixOf (← get)

def take (mark : String) : Reading Bool := do
  skipBlanks
  if ← isAt mark then
    modify (·.drop mark.length)
    return true
  return false

def demand (mark : String) : Reading Unit := do
  if !(← take mark) then fail (String.ofList ((← get).take 10))

def isNameChar (c : Char) : Bool := c.isAlphanum || c = '_'

/-- The name or keyword that comes next; empty if none. -/
def peekName : Reading String := do
  skipBlanks
  match ← get with
  | c :: cs =>
    return if isNameChar c && !c.isDigit then String.ofList (c :: cs.takeWhile isNameChar) else ""
  | [] => return ""

def takeName : Reading String := do
  let name ← peekName
  modify (·.drop name.length)
  return name

def takeKeyword (keyword : String) : Reading Bool := do
  if (← peekName) = keyword then
    modify (·.drop keyword.length)
    return true
  return false

/-- The functions that are known from the start. -/
def builtins : List String :=
  ["length", "substr", "index", "split", "sub", "gsub", "match", "sprintf", "sin", "cos", "atan2",
    "exp",
    "log", "sqrt", "int", "rand", "srand", "tolower", "toupper", "close", "system", "fflush",
    "systime",
    "strftime", "mktime"]

/-- Words that are no names of variables. -/
def keywords : List String :=
  ["BEGIN", "END", "function", "func", "if", "else", "while", "for", "do", "break", "continue",
    "next", "nextfile", "exit", "return", "delete", "in", "getline", "print", "printf"]

/-- The escapes in texts of the language. -/
def escapes : Escapes := { Escapes.numbers with quotes := ['"'] }

/-- A text between quotes, whose first one has been taken. -/
def quoted : Nat → List Char → List Char → Option (List Char × List Char)
  | 0, _, _ => none
  | _ + 1, _, [] => none
  | n + 1, reversed, c :: cs =>
    if c = '"' then some (reversed.reverse, cs)
    else if c = '\\' then
      match cs with
      | [] => none
      | '\n' :: cs => quoted n reversed cs
      | '/' :: cs => quoted n ('/' :: reversed) cs
      | d :: cs =>
        let (out, rest) := escapes.read d cs
        quoted n (out.reverse ++ reversed) rest
    else quoted n (c :: reversed) cs

/-- An expression between slashes, whose first one has been taken. -/
def slashed : Nat → Bool → List Char → List Char → Option (List Char × List Char)
  | 0, _, _, _ => none
  | _ + 1, _, _, [] => none
  | n + 1, inside, reversed, c :: cs =>
    if c = '/' && !inside then some (reversed.reverse, cs)
    else if c = '\n' then none
    else if c = '\\' then
      match cs with
      | [] => none
      | '/' :: cs => slashed n inside ('/' :: reversed) cs
      | d :: cs => slashed n inside (d :: '\\' :: reversed) cs
    else
      match c, inside, cs with
      | '[', false, ']' :: cs => slashed n true (']' :: c :: reversed) cs
      | '[', false, '^' :: ']' :: cs => slashed n true (']' :: '^' :: c :: reversed) cs
      | '[', false, _ => slashed n true (c :: reversed) cs
      | ']', true, _ => slashed n false (c :: reversed) cs
      | _, _, _ => slashed n inside (c :: reversed) cs

/-- How expressions are written. -/
def dialect : Regex.Dialect := ⟨true, false, false, true, true⟩

/-- A number: digits, a point, an exponent. -/
def takeNumber : Reading Float := do
  let cs ← get
  let whole := cs.takeWhile Char.isDigit
  let rest := cs.drop whole.length
  let (fraction, rest) := match rest with
    | '.' :: more =>
      let f := more.takeWhile Char.isDigit
      (f, more.drop f.length)
    | _ => ([], rest)
  let (exponent, rest) : Int × List Char := match rest with
    | e :: more =>
      if e = 'e' ∨ e = 'E' then
        let (negative, ds) := match more with
          | '-' :: ds => (true, ds)
          | '+' :: ds => (false, ds)
          | ds => (false, ds)
        let digits := ds.takeWhile Char.isDigit
        if digits.isEmpty then (0, rest)
        else
          let n : Int := digits.foldl (fun n c => 10 * n + (c.toNat - 48)) 0
          (if negative then -n else n, ds.drop digits.length)
      else (0, rest)
    | [] => (0, rest)
  set rest
  let mantissa := (whole ++ fraction).foldl (fun n c => 10 * n + (c.toNat - 48)) 0
  let e := exponent - fraction.length
  return Float.ofScientific mantissa (e < 0) e.natAbs

/-- Where an expression stands: inside of a list that is printed, a greater-than sign is none; in
the head of a loop, `in` may belong to the loop; and behind a dollar nothing is assigned. -/
structure Context where
  isPrinted : Bool
  isLoopHead : Bool
  isBare : Bool

def Context.plain : Context := ⟨false, false, false⟩

/-- Whether an expression is a place that can be set. -/
def isPlace : Expr → Bool
  | .field _ => true
  | .var _ => true
  | .element _ _ => true
  | _ => false

/-- The operator of an assignment, if one comes next. -/
def assignment? : Reading (Option (Option Operator)) := do
  skipBlanks
  match ← get with
  | '=' :: '=' :: _ => return none
  | '=' :: cs => set cs; return some none
  | '+' :: '=' :: cs => set cs; return some (some .add)
  | '-' :: '=' :: cs => set cs; return some (some .subtract)
  | '*' :: '*' :: '=' :: cs => set cs; return some (some .power)
  | '*' :: '=' :: cs => set cs; return some (some .multiply)
  | '/' :: '=' :: cs => set cs; return some (some .divide)
  | '%' :: '=' :: cs => set cs; return some (some .remainder)
  | '^' :: '=' :: cs => set cs; return some (some .power)
  | _ => return none

mutual

/-- An expression. The first argument bounds its depth. -/
def expr (c : Context) : Nat → Reading Expr
  | 0 => fail "nesting"
  | n + 1 => do
    let condition ← disjunction c n
    if ← take "?" then
      skipLines false
      let yes ← expr c n
      skipLines false
      demand ":"
      skipLines false
      return .choice condition yes (← expr c n)
    return condition

def disjunction (c : Context) : Nat → Reading Expr
  | 0 => fail "nesting"
  | n + 1 => do
    let first ← conjunction c n
    if ← take "||" then
      skipLines false
      return .either first (← disjunction c n)
    return first

def conjunction (c : Context) : Nat → Reading Expr
  | 0 => fail "nesting"
  | n + 1 => do
    let first ← membership c n (← matched c n)
    if ← take "&&" then
      skipLines false
      return .both first (← conjunction c n)
    return first

def membership (c : Context) : Nat → Expr → Reading Expr
  | 0, _ => fail "nesting"
  | n + 1, first => do
    if !c.isLoopHead && (← peekName) = "in" then
      let _ ← takeName
      membership c n (.isIn [first] (← takeName))
    else return first

def matched (c : Context) : Nat → Reading Expr
  | 0 => fail "nesting"
  | n + 1 => do
    let first ← compared c n
    matchedMore c n first

def matchedMore (c : Context) : Nat → Expr → Reading Expr
  | 0, _ => fail "nesting"
  | n + 1, first => do
    skipBlanks
    if ← isAt "!~" then
      let _ ← take "!~"
      matchedMore c n (.matching true first (← compared c n))
    else if ← take "~" then matchedMore c n (.matching false first (← compared c n))
    else return first

def compared (c : Context) : Nat → Reading Expr
  | 0 => fail "nesting"
  | n + 1 => do
    let first ← joined c n
    skipBlanks
    let op : Option (Comparison × Nat) := match ← get with
      | '<' :: '=' :: _ => some (.lessOrEqual, 2)
      | '<' :: _ => some (.less, 1)
      | '=' :: '=' :: _ => some (.equal, 2)
      | '!' :: '=' :: _ => some (.different, 2)
      | '>' :: '=' :: _ => if c.isPrinted then none else some (.greaterOrEqual, 2)
      | '>' :: _ => if c.isPrinted then none else some (.greater, 1)
      | _ => none
    match op with
    | none => return first
    | some (op, width) =>
      modify (·.drop width)
      return .comparison op first (← joined c n)

def joined (c : Context) : Nat → Reading Expr
  | 0 => fail "nesting"
  | n + 1 => do joinedMore c n (← sum c n)

def joinedMore (c : Context) : Nat → Expr → Reading Expr
  | 0, _ => fail "nesting"
  | n + 1, first => do
    skipBlanks
    let name ← peekName
    let goesOn := match ← get with
      | '"' :: _ => true
      | '$' :: _ => true
      | '(' :: _ => true
      | '-' :: _ => true
      | '!' :: d :: _ => d != '=' && d != '~'
      | d :: _ => d.isDigit || d = '.' || (name != "" && !(keywords.contains name))
      | [] => false
    if goesOn && (← get).head? != some '-' then joinedMore c n (.joined first (← sum c n))
    else return first

def sum (c : Context) : Nat → Reading Expr
  | 0 => fail "nesting"
  | n + 1 => do sumMore c n (← product c n)

def sumMore (c : Context) : Nat → Expr → Reading Expr
  | 0, _ => fail "nesting"
  | n + 1, first => do
    skipBlanks
    match ← get with
    | '+' :: cs => set cs; sumMore c n (.binary .add first (← product c n))
    | '-' :: cs => set cs; sumMore c n (.binary .subtract first (← product c n))
    | _ => return first

def product (c : Context) : Nat → Reading Expr
  | 0 => fail "nesting"
  | n + 1 => do productMore c n (← signed c n)

def productMore (c : Context) : Nat → Expr → Reading Expr
  | 0, _ => fail "nesting"
  | n + 1, first => do
    skipBlanks
    match ← get with
    | '*' :: '*' :: _ => return first
    | '*' :: cs => set cs; productMore c n (.binary .multiply first (← signed c n))
    | '/' :: cs => set cs; productMore c n (.binary .divide first (← signed c n))
    | '%' :: cs => set cs; productMore c n (.binary .remainder first (← signed c n))
    | _ => return first

def signed (c : Context) : Nat → Reading Expr
  | 0 => fail "nesting"
  | n + 1 => do
    skipBlanks
    match ← get with
    | '!' :: cs => set cs; return .opposite (← signed c n)
    | '-' :: '-' :: _ => power c n
    | '+' :: '+' :: _ => power c n
    | '-' :: cs => set cs; return .negative (← signed c n)
    | '+' :: cs => set cs; return .positive (← signed c n)
    | _ => power c n

def power (c : Context) : Nat → Reading Expr
  | 0 => fail "nesting"
  | n + 1 => do
    let base ← listened c n (← stepped c n)
    skipBlanks
    match ← get with
    | '^' :: '=' :: _ => return base
    | '*' :: '*' :: '=' :: _ => return base
    | '^' :: cs => set cs; return .binary .power base (← signed c n)
    | '*' :: '*' :: cs => set cs; return .binary .power base (← signed c n)
    | _ => return base

/-- What follows a command if a line of what it writes is read. -/
def listened (c : Context) : Nat → Expr → Reading Expr
  | 0, _ => fail "nesting"
  | n + 1, e => do
    skipBlanks
    let before ← get
    match before with
    | '|' :: '|' :: _ => return e
    | '|' :: cs =>
      set cs
      skipBlanks
      if !(← takeKeyword "getline") then
        set before
        return e
      let place ← linePlace c n
      listened c n (.listen e place)
    | _ => return e

/-- The place that a line is read into, if one is named. -/
def linePlace (c : Context) : Nat → Reading (Option Expr)
  | 0 => fail "nesting"
  | n + 1 => do
    skipBlanks
    let name ← peekName
    if (← get).head? = some '$' || (name != "" && !keywords.contains name) then some <$> operand c n
    else return none

/-- A place that is set or changed by one, or another operand. -/
def stepped (c : Context) : Nat → Reading Expr
  | 0 => fail "nesting"
  | n + 1 => do
    skipBlanks
    match ← get with
    | '+' :: '+' :: cs => set cs; return .step (← operand c n) true false
    | '-' :: '-' :: cs => set cs; return .step (← operand c n) false false
    | _ =>
      let e ← operand c n
      if !isPlace e then return e
      if ← isAt "++" then modify (·.drop 2); return .step e true true
      if ← isAt "--" then modify (·.drop 2); return .step e false true
      if c.isBare then return e
      match ← assignment? with
      | some op =>
        skipLines false
        return .assign e op (← expr c n)
      | none => return e

def operand (c : Context) : Nat → Reading Expr
  | 0 => fail "nesting"
  | n + 1 => do
    skipBlanks
    match ← get with
    | [] => fail "end of file"
    | '"' :: cs =>
      match quoted (cs.length + 1) [] cs with
      | some (inside, rest) => set rest; return .text (String.ofList inside)
      | none => fail "an open quote"
    | '/' :: cs =>
      match slashed (cs.length + 1) false [] cs with
      | some (inside, rest) =>
        set rest
        match Regex.ofText dialect (String.ofList inside) with
        | .ok r => return .regex r
        | .error words => throw words
      | none => fail "an open slash"
    | '$' :: cs =>
      set cs
      match cs with
      | '+' :: '+' :: _ => return .field (← stepped { c with isBare := true } n)
      | '-' :: '-' :: _ => return .field (← stepped { c with isBare := true } n)
      | '-' :: cs => set cs; return .field (.negative (← operand c n))
      | _ => return .field (← operand c n)
    | '-' :: cs => set cs; return .negative (← operand c n)
    | '(' :: cs =>
      set cs
      let all ← exprs .plain n
      skipLines false
      demand ")"
      match all with
      | [e] => return .grouped e
      | all =>
        if ← takeKeyword "in" then return .isIn all (← takeName)
        fail "a list"
    | d :: rest =>
      if d.isDigit || (d = '.' && rest.head?.any Char.isDigit) then return .number (← takeNumber)
      let name ← takeName
      if name = "" then fail d.toString
      if name = "getline" then
        let place ← linePlace c n
        if ← take "<" then return .getline place (some (← operand c n))
        return .getline place none
      if keywords.contains name then fail name
      if builtins.contains name then
        if ← take "(" then
          skipLines false
          if ← take ")" then return .call name []
          let args ← exprs .plain n
          skipLines false
          demand ")"
          return .call name args
        if name = "length" then return .call name []
        fail name
      if ← isAt "(" then
        modify (·.drop 1)
        skipLines false
        if ← take ")" then return .call name []
        let args ← exprs .plain n
        skipLines false
        demand ")"
        return .call name args
      if ← isAt "[" then
        modify (·.drop 1)
        let index ← exprs .plain n
        demand "]"
        return .element name index
      return .var name

/-- Expressions with commas between them. -/
def exprs (c : Context) : Nat → Reading (List Expr)
  | 0 => fail "nesting"
  | n + 1 => do
    skipLines false
    let first ← expr c n
    skipBlanks
    if ← take "," then return first :: (← exprs c n)
    return [first]

end

/-- Whether a statement ends here. -/
def isEnd : Reading Bool := do
  skipBlanks
  match ← get with
  | [] => return true
  | c :: _ => return c = '\n' || c = ';' || c = '\x7d'

/-- The end of a simple statement. -/
def terminator : Reading Unit := do
  skipBlanks
  match ← get with
  | ';' :: cs => set cs
  | '\n' :: cs => set cs
  | '\x7d' :: _ => pure ()
  | [] => pure ()
  | cs => fail (String.ofList (cs.take 10))

mutual

/-- A statement. The first argument bounds its depth. -/
def statement : Nat → Reading Statement
  | 0 => fail "nesting"
  | n + 1 => do
    skipBlanks
    match ← get with
    | '\x7b' :: cs => set cs; return .block (← statements n)
    | ';' :: cs => set cs; return .nothing
    | _ =>
      let deep := 100 + (← get).length * 4
      let condition : Reading Expr := do
        demand "("
        let e ← expr .plain deep
        demand ")"
        skipLines false
        return e
      match ← peekName with
      | "if" =>
        let _ ← takeName
        let e ← condition
        let yes ← statement n
        let before ← get
        skipLines true
        if ← takeKeyword "else" then
          skipLines false
          return .choice e yes (← statement n)
        set before
        return .choice e yes .nothing
      | "while" =>
        let _ ← takeName
        let e ← condition
        return .loop e (← statement n)
      | "do" =>
        let _ ← takeName
        skipLines false
        let body ← statement n
        skipLines true
        if !(← takeKeyword "while") then fail "do"
        demand "("
        let e ← expr .plain deep
        demand ")"
        terminator
        return .loopAfter body e
      | "for" =>
        let _ ← takeName
        demand "("
        let before ← get
        let name ← takeName
        if name != "" && (← takeKeyword "in") then
          let array ← takeName
          if array != "" && (← take ")") then
            skipLines false
            return .each name array (← statement n)
        set before
        let part (mark : String) : Reading (Option Expr) := do
          if ← take mark then return none
          let e ← expr .plain deep
          demand mark
          return some e
        let start ← part ";"
        skipLines false
        let e ← part ";"
        skipLines false
        let step ← part ")"
        skipLines false
        return .counting (start.elim .nothing .expr) e (step.elim .nothing .expr) (← statement n)
      | _ =>
        let s ← simple
        terminator
        return s

/-- Statements up to a closing brace. -/
def statements : Nat → Reading (List Statement)
  | 0 => fail "nesting"
  | n + 1 => do
    skipLines true
    if ← take "\x7d" then return []
    if (← get).isEmpty then fail "end of file"
    let first ← statement n
    return first :: (← statements n)

/-- A statement that holds no other one. -/
def simple : Reading Statement := do
  let deep := 100 + (← get).length * 4
  let optional : Reading (Option Expr) := do
    if ← isEnd then return none else return some (← expr .plain deep)
  let target : Reading Target := do
    if ← take ">>" then return .appended (← joined ⟨true, false, true⟩ deep)
    if ← take ">" then return .file (← joined ⟨true, false, true⟩ deep)
    if ← take "|" then return .command (← joined ⟨true, false, true⟩ deep)
    return .standard
  let printed : Reading (List Expr) := do
    skipBlanks
    if (← isEnd) || (← isAt ">") || (← isAt "|") then return []
    -- a list in parentheses may be all that is printed
    let before ← get
    let plain : Reading (List Expr) := exprs ⟨true, false, false⟩ deep
    if ← isAt "(" then
      modify (·.drop 1)
      let all ← exprs .plain deep
      demand ")"
      skipBlanks
      if 1 < all.length && ((← isEnd) || (← isAt ">") || (← isAt "|")) then return all
      set before
      plain
    else plain
  match ← peekName with
  | "print" =>
    let _ ← takeName
    let args ← printed
    return .print args (← target)
  | "printf" =>
    let _ ← takeName
    let args ← printed
    return .format args (← target)
  | "next" => let _ ← takeName; return .next
  | "nextfile" => let _ ← takeName; return .nextFile
  | "break" => let _ ← takeName; return .leaveLoop
  | "continue" => let _ ← takeName; return .nextRound
  | "exit" => let _ ← takeName; return .exit (← optional)
  | "return" => let _ ← takeName; return .answer (← optional)
  | "delete" =>
    let _ ← takeName
    let name ← takeName
    if ← take "[" then
      let index ← exprs .plain deep
      demand "]"
      return .delete name index
    return .delete name []
  | _ => return .expr (← expr .plain deep)

end

/-- A rule or a function, put to those before it. -/
def item (p : Program) : Reading Program := do
  let deep := 100 + (← get).length * 4
  let action : Reading Statement := do
    skipBlanks
    demand "\x7b"
    return .block (← statements deep)
  let name ← peekName
  if name = "function" ∨ name = "func" then
    let _ ← takeName
    let f ← takeName
    demand "("
    let mut parameters : List String := []
    for _ in List.range 64 do
      skipLines false
      let parameter ← takeName
      if parameter != "" then parameters := parameters ++ [parameter]
      let _ ← take ","
    demand ")"
    skipLines false
    return { p with functions := (f, ⟨parameters, ← action⟩) :: p.functions }
  let add (pattern : Pattern) (action : Option Statement) : Program :=
    { p with rules := p.rules ++ [⟨pattern, action⟩] }
  if name = "BEGIN" then
    let _ ← takeName
    return add .atStart (some (← action))
  if name = "END" then
    let _ ← takeName
    return add .atEnd (some (← action))
  skipBlanks
  if ← isAt "\x7b" then return add .always (some (← action))
  let first ← expr .plain deep
  let pattern ← if ← take "," then do
      skipLines false
      pure (Pattern.between first (← expr .plain deep))
    else pure (Pattern.chosenBy first)
  skipBlanks
  if ← isAt "\x7b" then return add pattern (some (← action))
  return add pattern none

/-- Rules and functions up to the end. -/
def items : Nat → Program → Reading Program
  | 0, p => return p
  | n + 1, p => do
    skipLines true
    if (← get).isEmpty then return p
    items n (← item p)

/-- A program from its text. -/
def Program.ofText (text : String) : Except String Program :=
  match (items (text.length + 1) ⟨[], []⟩).run text.toList with
  | .ok (p, _) => .ok p
  | .error words => .error words

end CiHarness.Awk
