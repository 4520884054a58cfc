import CiHarness.Host.Escape

/-!
# Arithmetic of scripts

An expression of whole numbers is cut into symbols and read with the usual precedence. Numbers are
decimal, octal after a zero or hexadecimal after `0x`; they have sixty-four bits, and what is too
large wraps around. The extended shell also knows powers, steps up and down, commas, elements of
lists and numbers in other bases.
-/
namespace CiHarness.Shell

/-- An expression. -/
inductive Arithmetic where
  | number (n : Int)
  | place (s : String) (index : Option Arithmetic)
  | unary (op : String) (e : Arithmetic)
  | binary (op : String) (left right : Arithmetic)
  | choice (condition yes no : Arithmetic)
  /-- A variable is set to the result of an operation on it, or just set. -/
  | assign (op : String) (target : String) (index : Option Arithmetic) (e : Arithmetic)
  /-- A variable is stepped; the value is that before or after the step. -/
  | step (target : String) (index : Option Arithmetic) (delta : Int) (isBefore : Bool)

namespace Arithmetic

/-- A symbol of an expression. -/
inductive Symbol where
  | number (n : Int)
  | name (s : String)
  | mark (s : String)
  deriving DecidableEq

/-- A number in sixty-four bits. -/
def wrap (n : Int) : Int := Int.bmod n (Nat.pow 2 64)

/-- A number that is written, in sixty-four bits: the plain shell takes the largest one for any
beyond. -/
def bounded (extended : Bool) (n : Int) : Int :=
  if extended then wrap n else min n (Int.pow 2 63 - 1)

/-- The value of a digit in a base up to sixty-four. -/
def digitIn? (base : Nat) (c : Char) : Option Nat :=
  let value : Option Nat :=
    if c.isDigit then some (c.toNat - 48)
    else if 'a' ≤ c ∧ c ≤ 'z' then some (c.toNat - 87)
    else if 'A' ≤ c ∧ c ≤ 'Z' then some (if base ≤ 36 then c.toNat - 55 else c.toNat - 29)
    else if c = '@' then some 62
    else if c = '_' then some 63
    else none
  value.filter (· < base)

/-- The number that digits spell in a base. -/
def inBase? (base : Nat) (ds : List Char) : Option Int :=
  if ds.isEmpty then none
  else (ds.mapM (digitIn? base)).map fun vs => ((vs.foldl (fun n v => n * base + v) 0 : Nat) : Int)

/-- The number of a text without a sign. -/
def unsigned? (extended : Bool) (cs : List Char) : Option Int :=
  match cs with
  | '0' :: 'x' :: ds => inBase? 16 ds
  | '0' :: 'X' :: ds => inBase? 16 ds
  | '0' :: ds => if ds.isEmpty then some 0 else inBase? 8 ds
  | _ =>
    if cs.all Char.isDigit then inBase? 10 cs
    else if extended then
      let base := cs.takeWhile Char.isDigit
      match cs.drop base.length, inBase? 10 base with
      | '#' :: ds, some b => if 2 ≤ b ∧ b ≤ 64 then inBase? b.toNat ds else none
      | _, _ => none
    else none

/-- The number that the value of a variable spells. -/
def ofText? (extended : Bool) (s : String) : Option Int :=
  let isBlank (c : Char) : Bool := c = ' ' || ('\t' ≤ c && c ≤ '\r')
  let cs := ((s.toList.dropWhile isBlank).reverse.dropWhile isBlank).reverse
  match cs with
  | [] => some 0
  | '-' :: ds => (unsigned? extended ds).map fun n => max (-Int.pow 2 63) (-n)
  | '+' :: ds => (unsigned? extended ds).map (min (Int.pow 2 63 - 1))
  | ds => (unsigned? extended ds).map fun n => if extended then wrap n else min (Int.pow 2 63 - 1) n

/-- The marks, the longer ones first. -/
def marks (extended : Bool) : List String :=
  (if extended then ["**=", "**", "++", "--", ",", "[", "]"] else []) ++
  ["<<=", ">>=", "<<", ">>", "<=", ">=", "==", "!=", "&&", "||", "+=", "-=", "*=", "/=", "%=", "&=",
    "|=", "^=", "+", "-", "*", "/", "%", "<", ">", "=", "!", "&", "|", "^", "~", "?", ":", "(", ")"]

/-- The symbols of an expression; none if it holds anything else. -/
def symbols? (extended : Bool) : Nat → List Char → Option (List Symbol)
  | 0, _ => none
  | _ + 1, [] => some []
  | n + 1, c :: cs =>
    if c = ' ' ∨ ('\t' ≤ c ∧ c ≤ '\r') ∨ (c = '\\' ∧ cs.head? = some '\n') then
      symbols? extended n cs
    else if c.isDigit then
      let isPart (d : Char) : Bool := d.isAlphanum || d = '_' || (extended && (d = '#' || d = '@'))
      let word := (c :: cs).takeWhile isPart
      (unsigned? extended word).bind fun i =>
        (symbols? extended n ((c :: cs).drop word.length)).map (.number (bounded extended i) :: ·)
    else if c.isAlpha || c = '_' then
      let word := (c :: cs).takeWhile fun d => d.isAlphanum || d = '_'
      (symbols? extended n ((c :: cs).drop word.length)).map (.name (String.ofList word) :: ·)
    else
      match (marks extended).find? fun m => m.toList.isPrefixOf (c :: cs) with
      | none => none
      | some m => (symbols? extended n ((c :: cs).drop m.length)).map (.mark m :: ·)

/-- The operators of each precedence, from those that bind weakest. -/
def levels : List (List String) :=
  [["||"], ["&&"], ["|"], ["^"], ["&"], ["==", "!="], ["<=", ">=", "<", ">"], ["<<", ">>"],
    ["+", "-"], ["*", "/", "%"]]

/-- The operators that set a variable. -/
def assignments : List String :=
  ["=", "+=", "-=", "*=", "/=", "%=", "&=", "|=", "^=", "<<=", ">>="]

mutual

/-- Expressions with commas between them, of which the last one counts. -/
def sequence? : Nat → List Symbol → Option (Arithmetic × List Symbol)
  | 0, _ => none
  | n + 1, symbols =>
    (whole? n symbols).bind fun (first, rest) =>
      match rest with
      | .mark "," :: rest => (sequence? n rest).map fun (next, rest) =>
        (.binary "," first next, rest)
      | rest => some (first, rest)

/-- An assignment, or a choice. -/
def whole? : Nat → List Symbol → Option (Arithmetic × List Symbol)
  | 0, _ => none
  | n + 1, symbols =>
    match target? n symbols with
    | some (name, index, .mark op :: rest) =>
      if assignments.contains op then
        (whole? n rest).map fun (e, rest) => (.assign (op.dropEnd 1).toString name index e, rest)
      else choice? n symbols
    | _ => choice? n symbols

/-- A variable, perhaps with an index. -/
def target? : Nat → List Symbol → Option (String × Option Arithmetic × List Symbol)
  | 0, _ => none
  | n + 1, .name s :: .mark "[" :: rest =>
    (sequence? n rest).bind fun (index, rest) =>
      match rest with
      | .mark "]" :: rest => some (s, some index, rest)
      | _ => none
  | _ + 1, .name s :: rest => some (s, none, rest)
  | _ + 1, _ => none

/-- A choice between two expressions, or an operation. -/
def choice? : Nat → List Symbol → Option (Arithmetic × List Symbol)
  | 0, _ => none
  | n + 1, symbols =>
    (operation? n levels symbols).bind fun (condition, rest) =>
      match rest with
      | .mark "?" :: rest =>
        (sequence? n rest).bind fun (yes, rest) =>
          match rest with
          | .mark ":" :: rest =>
            (choice? n rest).map fun (no, rest) => (.choice condition yes no, rest)
          | _ => none
      | rest => some (condition, rest)

/-- Operations of some levels, which bind to the left. -/
def operation? : Nat → List (List String) → List Symbol → Option (Arithmetic × List Symbol)
  | 0, _, _ => none
  | n + 1, [], symbols => power? n symbols
  | n + 1, ops :: tighter, symbols =>
    (operation? n tighter symbols).bind fun (first, rest) => operands? n ops tighter first rest

/-- The further operands of a level. -/
def operands? : Nat → List String → List (List String) → Arithmetic → List Symbol →
    Option (Arithmetic × List Symbol)
  | 0, _, _, _, _ => none
  | n + 1, ops, tighter, first, .mark op :: rest =>
    if ops.contains op then
      (operation? n tighter rest).bind fun (next, rest) =>
        operands? n ops tighter (.binary op first next) rest
    else some (first, .mark op :: rest)
  | _ + 1, _, _, first, rest => some (first, rest)

/-- A power, which binds to the right. -/
def power? : Nat → List Symbol → Option (Arithmetic × List Symbol)
  | 0, _ => none
  | n + 1, symbols =>
    (factor? n symbols).bind fun (base, rest) =>
      match rest with
      | .mark "**" :: rest => (power? n rest).map fun (e, rest) => (.binary "**" base e, rest)
      | rest => some (base, rest)

/-- A number, a variable, an expression in parentheses, or one of these with a sign. -/
def factor? : Nat → List Symbol → Option (Arithmetic × List Symbol)
  | 0, _ => none
  | _ + 1, .number i :: rest => some (.number i, rest)
  | n + 1, .mark "(" :: rest =>
    (sequence? n rest).bind fun (e, rest) =>
      match rest with
      | .mark ")" :: rest => some (e, rest)
      | _ => none
  | n + 1, .mark op :: rest =>
    if op = "++" ∨ op = "--" then
      (target? n rest).map fun (name, index, rest) =>
        (.step name index (if op = "++" then 1 else -1) false, rest)
    else if ["-", "+", "!", "~"].contains op then
      (factor? n rest).map fun (e, rest) => (.unary op e, rest)
    else none
  | n + 1, symbols =>
    (target? n symbols).map fun (name, index, rest) =>
      match rest with
      | .mark "++" :: rest => (.step name index 1 true, rest)
      | .mark "--" :: rest => (.step name index (-1) true, rest)
      | rest => (.place name index, rest)

end

/-- The expression of a text; none if it is malformed. A text without any symbol is zero. -/
def read? (extended : Bool) (text : String) : Option Arithmetic :=
  (symbols? extended (text.length + 1) text.toList).bind fun all =>
    if all.isEmpty then some (.number 0)
    else
      match sequence? (24 * all.length + 24) all with
      | some (e, []) => some e
      | _ => none

/-- The truth of a condition as a number. -/
def ofBool (b : Bool) : Int := if b then 1 else 0

/-- The result of an operation; none for a division by zero or a power that is none. -/
def operate? (op : String) (a b : Int) : Option Int :=
  let bits (f : Nat → Nat → Nat) : Int := wrap (f (a % Int.pow 2 64).toNat (b % Int.pow 2 64).toNat)
  if op = "+" then some (wrap (a + b))
  else if op = "-" then some (wrap (a - b))
  else if op = "*" then some (wrap (a * b))
  else if op = "/" then if b = 0 then none else some (wrap (a.tdiv b))
  else if op = "%" then if b = 0 then none else some (a.tmod b)
  else if op = "**" then if b < 0 then none else some (wrap (Int.pow a (b.toNat % 4096)))
  else if op = "<<" then some (wrap (a * Int.pow 2 (b % 64).toNat))
  else if op = ">>" then some (a.fdiv (Int.pow 2 (b % 64).toNat))
  else if op = "&" then some (bits (· &&& ·))
  else if op = "|" then some (bits (· ||| ·))
  else if op = "^" then some (bits (· ^^^ ·))
  else if op = "==" then some (ofBool (a == b))
  else if op = "!=" then some (ofBool (a != b))
  else if op = "<" then some (ofBool (a < b))
  else if op = ">" then some (ofBool (b < a))
  else if op = "<=" then some (ofBool (a ≤ b))
  else if op = ">=" then some (ofBool (b ≤ a))
  else some b

/-- The result of a sign. -/
def sign (op : String) (a : Int) : Int :=
  if op = "-" then wrap (-a) else if op = "!" then ofBool (a == 0) else if op = "~" then -a - 1
    else a

end Arithmetic

end CiHarness.Shell
