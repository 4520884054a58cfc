/-!
# Run identifiers

A run is identified by a UUID: thirty-two hexadecimal digits, written in lower case in groups of
eight, four, four, four and twelve. It is read in that form, without hyphens, in braces, or as a
URN; the digits and the lead-in of a URN may be in either case.
-/
namespace CiHarness

/-- Thirty-two hexadecimal digits. -/
structure RunId where
  digits : List (Fin 16)
  length_eq : digits.length = 32
  deriving DecidableEq

namespace RunId

/-- The value of a hexadecimal digit. -/
def digit? (c : Char) : Option (Fin 16) :=
  let n := c.toNat
  if h : 0x30 ≤ n ∧ n ≤ 0x39 then some ⟨n - 0x30, by omega⟩
  else if h : 0x61 ≤ n ∧ n ≤ 0x66 then some ⟨n - 0x57, by omega⟩
  else if h : 0x41 ≤ n ∧ n ≤ 0x46 then some ⟨n - 0x37, by omega⟩
  else none

/-- A hexadecimal digit in lower case. -/
def digitChar (d : Fin 16) : Char :=
  if d.val < 10 then Char.ofNat (0x30 + d.val) else Char.ofNat (0x57 + d.val)

/-- An identifier of thirty-two digits. -/
def ofDigits? (digits : List (Fin 16)) : Option RunId :=
  if h : digits.length = 32 then some ⟨digits, h⟩ else none

/-- The digits in their groups. -/
def hyphenated (id : RunId) : List Char :=
  let cs := id.digits.map digitChar
  cs.take 8 ++ '-' :: ((cs.drop 8).take 4 ++ '-' :: ((cs.drop 12).take 4 ++
    '-' :: ((cs.drop 16).take 4 ++ '-' :: cs.drop 20)))

/-- The written form. -/
def toText (id : RunId) : String := String.ofList id.hyphenated

/-- Digits without hyphens. -/
def ofPlain? (cs : List Char) : Option RunId := (cs.mapM digit?).bind ofDigits?

/-- Digits in their groups. -/
def ofHyphenated? (cs : List Char) : Option RunId :=
  if cs[8]? = some '-' ∧ cs[13]? = some '-' ∧ cs[18]? = some '-' ∧ cs[23]? = some '-' then
    ofPlain? (cs.take 8 ++ (cs.drop 9).take 4 ++ (cs.drop 14).take 4 ++ (cs.drop 19).take 4 ++
      cs.drop 24)
  else none

/-- The forms are told apart by their length. -/
def ofChars? (cs : List Char) : Option RunId :=
  if cs.length = 32 then ofPlain? cs
  else if cs.length = 36 then ofHyphenated? cs
  else if cs.length = 38 then
    if cs.head? = some '\x7b' ∧ cs.getLast? = some '\x7d' then ofHyphenated? cs.tail.dropLast
    else none
  else if cs.length = 45 then
    if (cs.take 9).map Char.toLower = "urn:uuid:".toList then ofHyphenated? (cs.drop 9) else none
  else none

/-- The identifier of a written form. -/
def ofText? (s : String) : Option RunId := ofChars? s.toList

/-- The identifier whose digits are all zero. -/
def zero : RunId := ⟨List.replicate 32 0, by decide⟩

/-- An identifier drawn by chance: all digits are arbitrary but the one that says so and the one
that tells the variant. -/
def ofChance (digit : Nat → Fin 16) : RunId :=
  ⟨(List.range 32).map fun i =>
      if i = 12 then 4 else if i = 16 then Fin.ofNat 16 (8 + (digit i).val % 4) else digit i,
    by simp⟩

end RunId

end CiHarness
