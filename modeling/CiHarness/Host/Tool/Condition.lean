import CiHarness.Host.Regex
import CiHarness.Host.Tool.Basic

/-!
# Conditions and expressions

A condition is given by arguments: words, numbers and paths are compared and asked about, and
conditions are negated and joined. Up to four arguments are read by their number, so that an
operator may also be an operand. Expressions are calculated from arguments by operators that bind
more or less tightly.
-/
namespace CiHarness.Tool

/-! ## Conditions -/

/-- What a condition can ask about besides files: whether a variable is set, and which spelling of
operators is known. -/
structure Judge where
  surroundings : Surroundings
  isSet : String → Bool
  knowsDoubleEquals : Bool

namespace Judge

/-- Operators with one operand. -/
def unaryOperators : List String :=
  ["-b", "-c", "-d", "-e", "-f", "-g", "-h", "-k", "-L", "-n", "-p", "-r", "-s", "-S", "-t", "-u",
    "-w", "-x", "-z", "-G", "-O", "-N"]

/-- Operators between two operands. -/
def binaryOperators : List String :=
  ["=", "!=", "<", ">", "-eq", "-ne", "-lt", "-le", "-gt", "-ge", "-nt", "-ot", "-ef"]

def isUnary (j : Judge) (op : String) : Bool :=
  unaryOperators.contains op || (j.knowsDoubleEquals && (op = "-v" || op = "-a" || op = "-o"))

def isBinary (j : Judge) (op : String) : Bool :=
  binaryOperators.contains op || (j.knowsDoubleEquals && op = "==")

/-- A number of a comparison; blanks around it are passed over. -/
def number (word : String) : Except String Int :=
  let isBlank (c : Char) : Bool := c = ' ' || c = '\t' || c = '\n'
  let cs := ((word.toList.dropWhile isBlank).reverse.dropWhile isBlank).reverse
  match integer? (String.ofList cs) with
  | some n => .ok n
  | none => .error ("Illegal number: " ++ word)

/-- The entry that a path leads to. -/
def entry? (j : Judge) (path : String) : Option Entry :=
  (j.surroundings.find path).toOption.map (·.2)

/-- A condition with one operand. -/
def unary (j : Judge) (op word : String) : Bool :=
  let holds (p : Entry → Bool) : Bool := (j.entry? word).any p
  match op with
  | "-z" => word = ""
  | "-n" => word != ""
  | "-t" => false
  | "-v" => j.isSet word
  | "-d" => holds (·.isDirectory)
  | "-f" => holds (·.isRegular)
  | "-s" => holds fun e => e.size != 0
  | "-x" => holds fun e => e.isDirectory || e.isExecutable
  | "-c" => holds fun e => match e.content with
    | .void => true
    | .zeros => true
    | .full => true
    | _ => false
  | "-h" => ((j.surroundings.findLink word).toOption).any (·.2.isLink)
  | "-L" => ((j.surroundings.findLink word).toOption).any (·.2.isLink)
  | "-b" => false
  | "-p" => false
  | "-S" => false
  | "-N" => false
  | "-o" => false
  | "-g" => holds fun e => e.mode &&& 0o2000 != 0
  | "-k" => holds fun e => e.mode &&& 0o1000 != 0
  | "-u" => holds fun e => e.mode &&& 0o4000 != 0
  | _ => (j.entry? word).isSome

/-- A condition with two operands. -/
def binary (j : Judge) (op left right : String) : Except String Bool :=
  let compare (f : Int → Int → Bool) :
      Except String Bool := do return f (← number left) (← number right)
  match op with
  | "=" => .ok (left = right)
  | "==" => .ok (left = right)
  | "!=" => .ok (left != right)
  | "<" => .ok (left < right)
  | ">" => .ok (right < left)
  | "-eq" => compare (· == ·)
  | "-ne" => compare (· != ·)
  | "-lt" => compare (· < ·)
  | "-le" => compare (· ≤ ·)
  | "-gt" => compare (· > ·)
  | "-ge" => compare (· ≥ ·)
  | "-ef" =>
    let place (path : String) := (j.surroundings.find path).toOption.map (·.1)
    .ok ((place left).isSome && place left == place right)
  | _ =>
    let time? (path : String) := (j.entry? path).map Entry.time
    let isNewer (a b : Option Nat) : Bool := match a, b with
      | some a, some b => b < a
      | some _, none => true
      | none, _ => false
    .ok (if op = "-nt" then isNewer (time? left) (time? right)
      else isNewer (time? right) (time? left))

mutual

/-- Conditions of which one must hold, and what is left. The first argument bounds the depth. -/
def disjunction (j : Judge) : Nat → List String → Except String (Bool × List String)
  | 0, _ => .error "too many arguments"
  | n + 1, words => do
    let (first, rest) ← j.conjunction n words
    match rest with
    | "-o" :: rest =>
      let (second, rest) ← j.disjunction n rest
      return (first || second, rest)
    | _ => return (first, rest)

/-- Conditions of which all must hold. -/
def conjunction (j : Judge) : Nat → List String → Except String (Bool × List String)
  | 0, _ => .error "too many arguments"
  | n + 1, words => do
    let (first, rest) ← j.negation n words
    match rest with
    | "-a" :: rest =>
      let (second, rest) ← j.conjunction n rest
      return (first && second, rest)
    | _ => return (first, rest)

/-- A condition that may be negated. -/
def negation (j : Judge) : Nat → List String → Except String (Bool × List String)
  | 0, _ => .error "too many arguments"
  | n + 1, words =>
    match words with
    | "!" :: rest =>
      if j.isOperand rest then j.primary n words
      else do
        let (holds, rest) ← j.negation n rest
        return (!holds, rest)
    | _ => j.primary n words

/-- One condition. -/
def primary (j : Judge) : Nat → List String → Except String (Bool × List String)
  | 0, _ => .error "too many arguments"
  | n + 1, words =>
    match words with
    | [] => .ok (false, [])
    | word :: rest =>
      if word = "(" && !j.isOperand rest then
        match rest with
        | ")" :: rest => .ok (false, rest)
        | _ => do
          let (holds, rest) ← j.disjunction n rest
          match rest with
          | ")" :: rest => return (holds, rest)
          | _ => .error "closing paren expected"
      else if j.isUnary word && !j.isOperand rest then
        match rest with
        | operand :: rest => .ok (j.unary word operand, rest)
        | [] => .error (word ++ ": argument expected")
      else
        match rest with
        | op :: right :: rest =>
          if j.isBinary op then do return (← j.binary op word right, rest)
          else .ok (word != "", op :: right :: rest)
        | [op] =>
          if j.isBinary op then .error (op ++ ": argument expected")
          else .ok (word != "", rest)
        | [] => .ok (word != "", rest)

/-- Whether a word that looks like an operator is an operand: nothing follows it, or an operator and
something to compare it with. -/
def isOperand (j : Judge) (after : List String) : Bool :=
  match after with
  | [] => true
  | [_] => false
  | op :: next :: _ => j.isBinary op && next != ")"

end

/-- The value of a condition. -/
def evaluate (j : Judge) (words : List String) : Except String Bool :=
  match words with
  | [] => .ok false
  | [left, op, right] =>
    if j.isBinary op then j.binary op left right else general words
  | _ => general words
where
  general (words : List String) : Except String Bool :=
    let isWrapped (words : List String) : Bool := words.head? = some "(" && words.getLast? =
      some ")"
    if (words.length = 3 || words.length = 4) && isWrapped words then whole (words.drop 1).dropLast
    else if (words.length = 3 || words.length = 4) && words.head? = some "!" then
      (short (words.drop 1)).map (!·)
    else whole words
  short (words : List String) : Except String Bool :=
    match words with
    | [left, op, right] => if j.isBinary op then j.binary op left right else whole words
    | _ => whole words
  whole (words : List String) : Except String Bool := do
    let (holds, rest) ← j.disjunction (2 * words.length + 10) words
    match rest with
    | [] => return holds
    | word :: _ => .error (word ++ ": unexpected operator")

end Judge

/-- The words of a condition between its name and its closing bracket, if it has one. -/
def conditionWords (name : String) (args : List String) : Except String (List String) :=
  if name = "[" then
    if args.getLast? = some "]" then .ok args.dropLast else .error "missing ]"
  else .ok args

/-- The status of a condition, and a complaint if it is malformed. -/
def judge (j : Judge) (name : String) (args : List String) : UInt8 × Option String :=
  match (conditionWords name args).bind j.evaluate with
  | .ok true => (0, none)
  | .ok false => (1, none)
  | .error words => (2, some (name ++ ": " ++ words))

def runTest : Utility := fun s name args =>
  let base := String.ofList ((name.toList.reverse.takeWhile (· != '/')).reverse)
  match judge ⟨s, fun _ => false, true⟩ base args with
  | (status, none) => .done (.ofStatus status)
  | (status, some complaint) => .done (.ofComplaint status complaint)

/-! ## Expressions -/

namespace Calculation

/-- An expression has no value: for the reason that is told, and with the status of malformed ones
or of faults. -/
abbrev Fault := UInt8 × String

/-- Whether a text counts as nothing. -/
def isNothing (s : String) : Bool :=
  s = "" || (integer? s == some 0 && !s.startsWith "+")

def demandNumber (s : String) : Except Fault Int :=
  if s.startsWith "+" then .error (2, "non-integer argument")
  else
    match integer? s with
    | some n => .ok n
    | none => .error (2, "non-integer argument")

def ofBool (b : Bool) : String := if b then "1" else "0"

/-- A text is compared with an expression that must match at its front: the text of the first group,
or the number of characters that match. -/
def matched (text pattern : String) : Except Fault String :=
  match Regex.ofText ⟨false, false, false, false, false⟩ pattern with
  | .error words => .error (2, words)
  | .ok r =>
    let t := text.toList.toArray
    let found := r.matchAt t 0
    if r.groupCount = 0 then .ok (toString (found.elim 0 (·.stop)))
    else .ok (found.elim "" (·.group t 1))

/-- An operator between two values. -/
def operate (op left right : String) : Except Fault String :=
  let numbers (f : Int → Int → Int) : Except Fault String := do
    return toString (f (← demandNumber left) (← demandNumber right))
  let compare (ofNumbers : Int → Int → Bool) (ofTexts : String → String → Bool) : Except Fault
      String :=
    match integer? left, integer? right with
    | some a, some b => .ok (ofBool (ofNumbers a b))
    | _, _ => .ok (ofBool (ofTexts left right))
  match op with
  | "|" => .ok (if !isNothing left then left else if isNothing right then "0" else right)
  | "&" => .ok (if isNothing left || isNothing right then "0" else left)
  | "<" => compare (· < ·) (· < ·)
  | "<=" => compare (· ≤ ·) (· ≤ ·)
  | "=" => compare (· == ·) (· == ·)
  | "==" => compare (· == ·) (· == ·)
  | "!=" => compare (· != ·) (· != ·)
  | ">=" => compare (· ≥ ·) (fun a b => b ≤ a)
  | ">" => compare (· > ·) (fun a b => b < a)
  | "+" => numbers (· + ·)
  | "-" => numbers (· - ·)
  | "*" => numbers (· * ·)
  | ":" => matched left right
  | _ => do
    let a ← demandNumber left
    let b ← demandNumber right
    if b = 0 then .error (2, "division by zero")
    else return toString (if op = "/" then a.tdiv b else a.tmod b)

/-- The operators, those that bind least first. -/
def levels : List (List String) :=
  [["|"], ["&"], ["<", "<=", "=", "==", "!=", ">=", ">"], ["+", "-"], ["*", "/", "%"], [":"]]

mutual

/-- A value on some levels of operators, and what is left. The first argument bounds the depth. -/
def level : Nat → List (List String) → List String → Except Fault (String × List String)
  | 0, _, _ => .error (2, "syntax error")
  | n + 1, [], words => operand n words
  | n + 1, ops :: tighter, words => do
    let (first, rest) ← level n tighter words
    more n ops tighter first rest

/-- Operators of one level bind to the left. -/
def more : Nat → List String → List (List String) → String → List String →
    Except Fault (String × List String)
  | 0, _, _, _, _ => .error (2, "syntax error")
  | n + 1, ops, tighter, first, words =>
    match words with
    | op :: rest =>
      if ops.contains op then do
        let (second, rest) ← level n tighter rest
        let value ← operate op first second
        more n ops tighter value rest
      else .ok (first, words)
    | [] => .ok (first, [])

/-- An operand: a word, an expression in parentheses, or a function of texts. -/
def operand : Nat → List String → Except Fault (String × List String)
  | 0, _ => .error (2, "syntax error")
  | n + 1, words =>
    match words with
    | [] => .error (2, "syntax error: missing argument")
    | "(" :: rest => do
      let (value, rest) ← level n levels rest
      match rest with
      | ")" :: rest => return (value, rest)
      | [] => .error (2, "syntax error: expecting ')' after '" ++ value ++ "'")
      | word :: _ => .error (2, "syntax error: expecting ')' instead of '" ++ word ++ "'")
    | ")" :: _ => .error (2, "syntax error: unexpected ')'")
    | "+" :: word :: rest => .ok (word, rest)
    | "length" :: rest => do
      let (text, rest) ← operand n rest
      return (toString text.length, rest)
    | "match" :: rest => do
      let (text, rest) ← operand n rest
      let (pattern, rest) ← operand n rest
      return (← matched text pattern, rest)
    | "index" :: rest => do
      let (text, rest) ← operand n rest
      let (marks, rest) ← operand n rest
      return (toString (((text.toList.findIdx? marks.toList.contains).map (· + 1)).getD 0), rest)
    | "substr" :: rest => do
      let (text, rest) ← operand n rest
      let (start, rest) ← operand n rest
      let (count, rest) ← operand n rest
      return (match integer? start, integer? count with
        | some i, some k =>
          if i ≤ 0 ∨ k ≤ 0 then ""
            else String.ofList ((text.toList.drop (i - 1).toNat).take k.toNat)
        | _, _ => "", rest)
    | word :: rest => .ok (word, rest)

end

/-- The value of an expression. -/
def value (words : List String) : Except Fault String := do
  let (value, rest) ← level (16 * words.length + 20) levels words
  match rest with
  | [] => return value
  | word :: _ => .error (2, "syntax error: unexpected argument '" ++ word ++ "'")

end Calculation

def runExpr : Utility := fun _ name args =>
  let args := if args.head? = some "--" then args.tail else args
  if args.isEmpty then
    .done (.ofComplaint 2
      (name ++ ": missing operand\nTry '" ++ name ++ " --help' for more information."))
  else
    match Calculation.value args with
    | .ok value => .done (.ofText (if Calculation.isNothing value then 1 else 0) (value ++ "\n"))
    | .error (status, words) => .done (.ofComplaint status (name ++ ": " ++ words))

end CiHarness.Tool
