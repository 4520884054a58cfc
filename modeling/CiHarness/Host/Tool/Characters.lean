import CiHarness.Host.Escape
import CiHarness.Host.Glob
import CiHarness.Host.Tool.Lines

/-!
# Programs over characters

Characters are exchanged for others, taken away or squeezed; and bytes are shown by their numbers or
in the sixty-four letters of a code for transport.
-/
namespace CiHarness.Tool

/-! ## Sets of characters -/

/-- A part of a set: characters in order, or one that fills up the set. -/
inductive SetPart where
  | chars (cs : List Char)
  | filling (c : Char) (count : Option Nat)

namespace SetPart

/-- A character that may be escaped, whether it was, and what is left. -/
def char? : List Char → Option (Char × Bool × List Char)
  | [] => none
  | '\\' :: d :: rest =>
    if Escapes.isDigitIn 8 d then
      let (n, rest) := Escapes.takeDigits 8 2 ((Escapes.digit? d).getD 0) rest
      some (Escapes.byte n, true, rest)
    else
      let known : Escapes := .letters
      some ((known.letter? d).getD d, true, rest)
  | c :: rest => some (c, false, rest)

/-- All bytes. -/
def allBytes : List Char := (List.range 256).map Char.ofNat

/-- A set from its text; the first argument bounds the number of its parts. -/
def ofChars : Nat → List Char → Except String (List SetPart)
  | 0, _ => .ok []
  | n + 1, cs =>
    match cs with
    | '[' :: ':' :: inner =>
      let name := inner.takeWhile (· != ':')
      match inner.drop name.length with
      | ':' :: ']' :: rest => do
        let members := allBytes.filter (Glob.isInClass (String.ofList name))
        if members.isEmpty then .error ("invalid character class '" ++ String.ofList name ++ "'")
        else return .chars members :: (← ofChars n rest)
      | _ => do return .chars ['['] :: (← ofChars n cs.tail)
    | '[' :: '=' :: c :: '=' :: ']' :: rest => do return .chars [c] :: (← ofChars n rest)
    | _ =>
      match (match cs with
        | '[' :: inner =>
          (char? inner).bind fun (c, _, rest) =>
            match rest with
            | '*' :: rest =>
              let digits := rest.takeWhile Char.isDigit
              match rest.drop digits.length with
              | ']' :: rest =>
                let base := if digits.head? = some '0' then 8 else 10
                let count := digits.foldl (fun n d => base * n + (d.toNat - 48)) 0
                some (SetPart.filling c (if count = 0 then none else some count), rest)
              | _ => none
            | _ => none
        | _ => none) with
      | some (p, rest) => do return p :: (← ofChars n rest)
      | none =>
        match char? cs with
        | none => .ok []
        | some (low, _, '-' :: rest) =>
          match char? rest with
          | none => .ok [.chars [low, '-']]
          | some (high, _, after) =>
            if high < low then
              .error ("range-endpoints of '" ++ low.toString ++ "-" ++ high.toString ++
                "' are in reverse collating sequence order")
            else do
              let all := (List.range (high.toNat - low.toNat + 1)).map fun i =>
                Char.ofNat (low.toNat + i)
              return .chars all :: (← ofChars n after)
        | some (c, _, rest) => do return .chars [c] :: (← ofChars n rest)

/-- The characters of a set that is filled up to a number of them. -/
def expand (size : Nat) (parts : List SetPart) : List Char :=
  let fixed := (parts.map fun
    | .chars cs => cs.length
    | .filling _ n => n.getD 0).foldl (· + ·) 0
  parts.flatMap fun
    | .chars cs => cs
    | .filling c (some n) => List.replicate n c
    | .filling c none => List.replicate (size - fixed) c

end SetPart

/-- A text in which equal characters of a set that come after one another are one. -/
def squeezed (isMember : Char → Bool) (text : String) : String :=
  (text.foldl (fun (out, last) c =>
    if last = some c && isMember c then (out, last) else (out.push c, some c)) ("", none)).1

/-- The program that exchanges characters. -/
def runTr : Utility :=
  withOptions (Grammar.ofText "cCdst" [("complement", 'c'), ("delete", 'd'),
    ("squeeze-repeats", 's'), ("truncate-set1", 't')] false) 1 fun _ name o =>
    let complements := o.has 'c' || o.has 'C'
    let read (s : String) : Except String (List SetPart) := SetPart.ofChars (s.length + 1) s.toList
    let first (parts : List SetPart) : List Char :=
      let cs := SetPart.expand 0 parts
      if complements then SetPart.allBytes.filter (!cs.contains ·) else cs
    let member (cs : List Char) : Char → Bool :=
      let table := (SetPart.allBytes.map cs.contains).toArray
      fun c => table.getD c.toNat false
    match o.operands.mapM read with
    | .error words => .done (.ofComplaint 1 (name ++ ": " ++ words))
    | .ok sets =>
      match sets, o.has 'd', o.has 's' with
      | [], _, _ => operandFault name "missing operand"
      | [a], true, false =>
        let isMember := member (first a)
        .reading fun input => .ofText 0 (String.ofList (input.text.toList.filter (!isMember ·)))
      | [a], false, true =>
        let isMember := member (first a)
        .reading fun input => .ofText 0 (squeezed isMember input.text)
      | [a, b], true, true =>
        let isMember := member (first a)
        let squeezes := member (SetPart.expand 0 b)
        .reading fun input =>
          .ofText 0 (squeezed squeezes (String.ofList (input.text.toList.filter (!isMember ·))))
      | [_], false, false =>
        operandFault name ("missing operand after '" ++ o.operands.headD "" ++
          "'\nTwo strings must be given when translating.")
      | [_], true, true =>
        operandFault name ("missing operand after '" ++ o.operands.headD "" ++
          "'\nTwo strings must be given when both deleting and squeezing repeats.")
      | [_, _], true, false =>
        operandFault name ("extra operand '" ++ o.operands.getD 1 "" ++
          "'\nOnly one string may be given when deleting without squeezing repeats.")
      | [a, b], false, squeezes =>
        let source := first a
        let target := SetPart.expand source.length b
        let source := if o.has 't' then source.take target.length else source
        if target.isEmpty && !source.isEmpty then
          .done (.ofComplaint 1 (name ++ ": when not truncating set1, string2 must be non-empty"))
        else
          let last := target.getLast?.getD '\x00'
          let pairs := source.zip (target ++ List.replicate (source.length - target.length) last)
          let table := pairs.foldl (fun (t : Array Char) (c, d) => t.set! c.toNat d)
            SetPart.allBytes.toArray
          let change (c : Char) : Char := table.getD c.toNat c
          .reading fun input =>
            let text := input.text.map change
            .ofText 0 (if squeezes then squeezed (member target) text else text)
      | _, _, _ => operandFault name ("extra operand '" ++ o.operands.getD 2 "" ++ "'")
where
  operandFault (name words : String) : Behaviour :=
    .done (.ofComplaint 1 (name ++ ": " ++ words ++ helpHint name))

/-! ## Bytes as numbers -/

/-- A number in a base with a fixed number of digits. -/
def digitsIn (base width n : Nat) : String :=
  let ds := Nat.toDigits base n
  String.ofList (List.replicate (width - ds.length) '0' ++ ds)

/-- The name of a byte as a character. -/
def byteName (n : Nat) : String :=
  match n with
  | 0 => "\\0"
  | 7 => "\\a"
  | 8 => "\\b"
  | 9 => "\\t"
  | 10 => "\\n"
  | 11 => "\\v"
  | 12 => "\\f"
  | 13 => "\\r"
  | n => if 32 ≤ n ∧ n < 127 then (Char.ofNat n).toString else digitsIn 8 3 n

/-- How bytes are shown: how many make a unit, how wide a unit is, and its text. -/
structure DumpFormat where
  size : Nat
  width : Nat
  text : Nat → String

/-- The format of a type. -/
def dumpFormat? (s : String) : Option DumpFormat :=
  let unsigned (size : Nat) : DumpFormat :=
    ⟨size, (toString (Nat.pow 256 size - 1)).length + 1, fun n => toString n⟩
  let signed (size : Nat) : DumpFormat :=
    ⟨size, (toString (Nat.pow 256 size / 2)).length + 2, fun n =>
      if 2 * n < Nat.pow 256 size then toString n else "-" ++ toString (Nat.pow 256 size - n)⟩
  let hex (size : Nat) : DumpFormat := ⟨size, 2 * size + 1, digitsIn 16 (2 * size)⟩
  let octal (size : Nat) : DumpFormat :=
    let width := (Nat.toDigits 8 (Nat.pow 256 size - 1)).length
    ⟨size, width + 1, digitsIn 8 width⟩
  match s with
  | "c" => some ⟨1, 4, byteName⟩
  | "x1" => some (hex 1)
  | "x2" => some (hex 2)
  | "x4" => some (hex 4)
  | "x" => some (hex 4)
  | "o1" => some (octal 1)
  | "o2" => some (octal 2)
  | "o4" => some (octal 4)
  | "u1" => some (unsigned 1)
  | "u2" => some (unsigned 2)
  | "u4" => some (unsigned 4)
  | "d1" => some (signed 1)
  | "d2" => some (signed 2)
  | "d4" => some (signed 4)
  | _ => none

/-- Numbers in rows; the first argument bounds their number. -/
def rowsOf {α : Type} (width : Nat) : Nat → List α → List (List α)
  | 0, _ => []
  | n + 1, xs => if xs.isEmpty then [] else xs.take width :: rowsOf width n (xs.drop width)

/-- The program that shows the bytes of files. -/
def runOd : Utility :=
  withOptions (Grammar.ofText "abcdoxvA:t:N:j:w:" [("address-radix", 'A'), ("format", 't'),
    ("read-bytes", 'N'), ("skip-bytes", 'j'), ("width", 'w'), ("output-duplicates", 'v')] true) 1
    fun s name o =>
    let formats := o.given.filterMap fun (c, v) => match c with
      | 't' => some v
      | 'b' => some "o1"
      | 'c' => some "c"
      | 'd' => some "u2"
      | 'o' => some "o2"
      | 'x' => some "x2"
      | _ => none
    match (if formats.isEmpty then ["o2"] else formats).mapM dumpFormat? with
    | none => .done (.ofComplaint 1 (name ++ ": invalid type string"))
    | some formats =>
      let width := ((o.value? 'w').bind decimal?).getD 16
      let address (n : Nat) : String := match (o.value? 'A').getD "o" with
        | "n" => ""
        | "d" => digitsIn 10 7 n
        | "x" => digitsIn 16 6 n
        | _ => digitsIn 8 7 n
      filterFiles s name o.operands fun text =>
        let skipped := ((o.value? 'j').bind decimal?).getD 0
        let all := text.toList.drop skipped
        let all := match (o.value? 'N').bind decimal? with
          | some n => all.take n
          | none => all
        let rows := rowsOf width (all.length + 1) all
        let unit (row : List Char) : Nat := row.reverse.foldl (fun n c => 256 * n + c.toNat) 0
        let widest := formats.foldl (fun n f => max n (f.width * (width / f.size))) 0
        let line (f : DumpFormat) (row : List Char) : String :=
          let units := rowsOf f.size (row.length + 1) row
          String.join (units.map fun u =>
            padLeft (max f.width (widest * f.size / width)) (f.text (unit u)))
        let shown := rows.zipIdx.foldl (fun (out, last, isStarred) (row, i) =>
          if !o.has 'v' && last = some row && row.length = width && i + 1 < rows.length then
            (if isStarred then out else out ++ "*\n", last, true)
          else
            let lines := formats.zipIdx.map fun (f, k) =>
              (if k = 0 then address (skipped + i * width)
                else String.ofList (List.replicate (address 0).length ' ')) ++ line f row ++ "\n"
            (out ++ String.join lines, some row, false)) ("", none, false)
        shown.1 ++ (if address 0 = "" then "" else address (skipped + all.length) ++ "\n")

/-! ## A code for transport -/

/-- The letters of the code. -/
def transportLetters : List Char :=
  "ABCDEFGHIJKLMNOPQRSTUVWXYZabcdefghijklmnopqrstuvwxyz0123456789+/".toList

/-- The letters of the code with thirty-two of them. -/
def thirtyTwoLetters : List Char := "ABCDEFGHIJKLMNOPQRSTUVWXYZ234567".toList

/-- A code for transport: its letters, and how many bytes make how many letters. -/
structure TransportCode where
  letters : Array Char
  bytes : Nat
  width : Nat

namespace TransportCode

def sixtyFour : TransportCode := ⟨transportLetters.toArray, 3, 4⟩

def thirtyTwo : TransportCode := ⟨thirtyTwoLetters.toArray, 5, 8⟩

/-- The digits of a number in the base of the code. -/
def digits (t : TransportCode) : Nat → Nat → List Char
  | 0, _ => []
  | n + 1, value =>
    t.letters.getD (value / Nat.pow t.letters.size n % t.letters.size) 'A' :: digits t n value

/-- How many letters some bytes take, and how many bytes some letters give. -/
def lettersFor (t : TransportCode) (bytes : Nat) : Nat := (bytes * t.width + t.bytes - 1) / t.bytes

def bytesFor (t : TransportCode) (letters : Nat) : Nat := letters * t.bytes / t.width

/-- Bytes in the code. -/
def encode (t : TransportCode) (cs : List Char) : List Char :=
  (rowsOf t.bytes (cs.length + 1) cs).flatMap fun row =>
    let value := (row ++ List.replicate (t.bytes - row.length) '\x00').foldl
      (fun n c => 256 * n + c.toNat) 0
    let kept := t.lettersFor row.length
    (t.digits t.width value).take kept ++ List.replicate (t.width - kept) '='

/-- The bytes of letters; none if one is not in the code. -/
def decode (t : TransportCode) (cs : List Char) : Option (List Char) :=
  let digits? := ((cs.takeWhile (· != '=')).mapM fun c => t.letters.toList.idxOf? c)
  digits?.map fun digits =>
    (rowsOf t.width (digits.length + 1) digits).flatMap fun row =>
      let value := (row ++ List.replicate (t.width - row.length) 0).foldl
        (fun n d => t.letters.size * n + d) 0
      ((List.range t.bytes).map fun k =>
        Char.ofNat (value / Nat.pow 256 (t.bytes - 1 - k) % 256)).take (t.bytesFor row.length)

end TransportCode

/-- A program that writes bytes in a code, or takes them out of it. -/
def runTransport (t : TransportCode) : Utility :=
  withOptions (Grammar.ofText "diw:" [("decode", 'd'), ("ignore-garbage", 'i'), ("wrap", 'w')] true)
    1
    fun s name o =>
    overFiles s (o.operands.take 1) fun contents =>
      match contents with
      | (path, .error fault) :: _ => .ofComplaint 1 (readComplaint name path fault)
      | contents =>
        let text := String.join (contents.filterMap fun (_, c) => c.toOption.map (·.text))
        if o.has 'd' then
          match t.decode (text.toList.filter fun c => c != '\n' &&
              (!o.has 'i' || t.letters.contains c || c = '=')) with
          | some cs => .ofText 0 (String.ofList cs)
          | none => .ofComplaint 1 (name ++ ": invalid input")
        else
          let width := ((o.value? 'w').bind decimal?).getD 76
          let code := t.encode text.toList
          if width = 0 then .ofText 0 (String.ofList code)
          else .ofText 0 (Octets.unlines ((rowsOf width (code.length + 1) code).map String.ofList))

def runBase64 : Utility := runTransport .sixtyFour

def runBase32 : Utility := runTransport .thirtyTwo

end CiHarness.Tool
