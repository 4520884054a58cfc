import CiHarness.Json.Basic

/-!
# Writing JSON

Two layouts: compact, without any blank, and indented, with one member or item a line. In a text
the quote, the backslash and the controls are escaped and all else stands as it is.
-/
namespace CiHarness.Json

/-- A character as it stands in a JSON text. -/
def escapeChar (c : Char) : String :=
  if c = '"' then "\\\""
  else if c = '\\' then "\\\\"
  else if c = '\x08' then "\\b"
  else if c = '\t' then "\\t"
  else if c = '\n' then "\\n"
  else if c = '\x0c' then "\\f"
  else if c = '\r' then "\\r"
  else if c.toNat < 0x20 then
    let digits := Nat.toDigits 16 c.toNat
    "\\u" ++ String.ofList (List.replicate (4 - digits.length) '0' ++ digits)
  else c.toString

/-- A text between quotes. -/
def quote (s : String) : String :=
  s.foldl (fun out c => out ++ escapeChar c) "\"" ++ "\""

/-- A number with its decimal places. -/
def writeNumber (digits : Int) (places : Nat) : String :=
  if places = 0 then toString digits
  else
    let ds := Nat.toDigits 10 digits.natAbs
    let ds := List.replicate (places + 1 - ds.length) '0' ++ ds
    let whole := ds.length - places
    (if digits < 0 then "-" else "") ++ String.ofList (ds.take whole) ++ "." ++
      String.ofList (ds.drop whole)

mutual

/-- The layout without blanks. -/
def compact : Json → String
  | .null => "null"
  | .bool b => if b then "true" else "false"
  | .number digits places => writeNumber digits places
  | .text s => quote s
  | .array items => "[" ++ compactItems items ++ "]"
  | .object members => "\x7b" ++ compactMembers members ++ "\x7d"

/-- Items with a comma between each two. -/
def compactItems : List Json → String
  | [] => ""
  | [v] => compact v
  | v :: w :: rest => compact v ++ "," ++ compactItems (w :: rest)

/-- Members with a comma between each two. -/
def compactMembers : List (String × Json) → String
  | [] => ""
  | [(name, v)] => quote name ++ ":" ++ compact v
  | (name, v) :: m :: rest => quote name ++ ":" ++ compact v ++ "," ++ compactMembers (m :: rest)

end

/-- A new line at a depth of indentation, two blanks for each level. -/
def newLine (depth : Nat) : String := "\n" ++ String.ofList (List.replicate (2 * depth) ' ')

mutual

/-- The indented layout of a value that stands at some depth. Empty arrays and objects stay on one
line. -/
def indented (depth : Nat) : Json → String
  | .null => "null"
  | .bool b => if b then "true" else "false"
  | .number digits places => writeNumber digits places
  | .text s => quote s
  | .array [] => "[]"
  | .array (v :: rest) => "[" ++ indentedItems (depth + 1) (v :: rest) ++ newLine depth ++ "]"
  | .object [] => "\x7b\x7d"
  | .object (m :: rest) =>
    "\x7b" ++ indentedMembers (depth + 1) (m :: rest) ++ newLine depth ++ "\x7d"

/-- Items on a line each. -/
def indentedItems (depth : Nat) : List Json → String
  | [] => ""
  | [v] => newLine depth ++ indented depth v
  | v :: w :: rest => newLine depth ++ indented depth v ++ "," ++ indentedItems depth (w :: rest)

/-- Members on a line each. -/
def indentedMembers (depth : Nat) : List (String × Json) → String
  | [] => ""
  | [(name, v)] => newLine depth ++ quote name ++ ": " ++ indented depth v
  | (name, v) :: m :: rest =>
    newLine depth ++ quote name ++ ": " ++ indented depth v ++ "," ++
      indentedMembers depth (m :: rest)

end

/-- The indented layout of a whole value. -/
def pretty (v : Json) : String := indented 0 v

end CiHarness.Json
