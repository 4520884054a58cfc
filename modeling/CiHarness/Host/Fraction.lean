import CiHarness.Host.Escape

/-!
# Fractions and their decimals

A fraction is a quotient of whole numbers with a sign. It is read from decimal text, rounded to a
number of binary digits as a machine keeps it, and written in decimals again: with a number of
places, with an exponent, or in the shorter of both forms. Every rounding goes to the nearest, and a
tie to the even neighbour.
-/
namespace CiHarness

/-- A fraction: its sign, and its size as a quotient. -/
structure Fraction where
  negative : Bool
  numerator : Nat
  denominator : Nat

namespace Fraction

def ofInt (n : Int) : Fraction := ⟨n < 0, n.natAbs, 1⟩

def isZero (q : Fraction) : Bool := q.numerator == 0

/-- The nearest whole number to a quotient; a tie goes to the even neighbour. -/
def roundQuotient (numerator denominator : Nat) : Nat :=
  let quotient := numerator / denominator
  let twice := 2 * (numerator % denominator)
  if twice < denominator || (twice == denominator && quotient % 2 == 0) then quotient
  else quotient + 1

/-- The whole number that a fraction is, without what stands after the point. -/
def truncated (q : Fraction) : Int :=
  let n : Int := q.numerator / q.denominator
  if q.negative then -n else n

/-- A fraction rounded to some number of binary digits. -/
def rounded (q : Fraction) (bits : Nat) : Fraction :=
  if q.numerator = 0 || q.denominator = 0 then { q with denominator := 1 }
  else
    -- the exponent of the last digit that is kept, or one too small
    let exponent : Int :=
      (Nat.log2 q.numerator : Int) - (Nat.log2 q.denominator : Int) - (bits : Int)
    let scaled (e : Int) : Nat :=
      if 0 ≤ e then roundQuotient q.numerator (q.denominator * Nat.pow 2 e.toNat)
      else roundQuotient (q.numerator * Nat.pow 2 (-e).toNat) q.denominator
    let e := if Nat.pow 2 bits ≤ scaled exponent then exponent + 1 else exponent
    let m := scaled e
    if 0 ≤ e then ⟨q.negative, m * Nat.pow 2 e.toNat, 1⟩ else ⟨q.negative, m, Nat.pow 2 (-e).toNat⟩

/-! ## Reading -/

/-- The exponent that follows a letter, if one does. -/
def readExponent (mark : Char → Bool) (cs : List Char) : Int × List Char :=
  let number (sign : Int) (ds : List Char) : Option (Int × List Char) :=
    if ds.head?.any Char.isDigit then
      let (n, rest) := Escapes.takeDigits 10 ds.length 0 ds
      some (sign * n, rest)
    else none
  match cs with
  | c :: rest =>
    if mark c then
      (match rest with
        | '-' :: ds => number (-1) ds
        | '+' :: ds => number 1 ds
        | ds => number 1 ds).getD (0, cs)
    else (0, cs)
  | [] => (0, cs)

/-- The fraction that a text without a sign begins with, and what follows it. -/
def readUnsigned? (cs : List Char) : Option (Fraction × List Char) :=
  let digits (base : Nat) (cs : List Char) : Option (Nat × Nat × List Char) :=
    let (whole, rest) := Escapes.takeDigits base cs.length 0 cs
    let wholeCount := cs.length - rest.length
    match rest with
    | '.' :: more =>
      let (all, after) := Escapes.takeDigits base more.length whole more
      let places := more.length - after.length
      if wholeCount + places = 0 then none else some (all, places, after)
    | _ => if wholeCount = 0 then none else some (whole, 0, rest)
  let hexadecimal : Option (Fraction × List Char) :=
    match cs with
    | '0' :: x :: rest =>
      if x = 'x' ∨ x = 'X' then
        (digits 16 rest).map fun (n, places, rest) =>
          let (e, rest) := readExponent (fun c => c = 'p' || c = 'P') rest
          let e := e - 4 * places
          (⟨false, n * Nat.pow 2 e.toNat, Nat.pow 2 (-e).toNat⟩, rest)
      else none
    | _ => none
  hexadecimal.or ((digits 10 cs).map fun (n, places, rest) =>
    let (e, rest) := readExponent (fun c => c = 'e' || c = 'E') rest
    let e := max (-5000) (min 5000 (e - places))
    (⟨false, n * Nat.pow 10 e.toNat, Nat.pow 10 (-e).toNat⟩, rest))

/-- The fraction that a text begins with after blanks and a sign, and what follows it. -/
def read? (cs : List Char) : Option (Fraction × List Char) :=
  match cs.dropWhile fun c => c = ' ' || ('\t' ≤ c && c ≤ '\r') with
  | '-' :: rest => (readUnsigned? rest).map fun (q, rest) => ({ q with negative := true }, rest)
  | '+' :: rest => readUnsigned? rest
  | rest => readUnsigned? rest

/-! ## Writing -/

/-- The size of a fraction with a number of places, without its sign. -/
def fixed (q : Fraction) (places : Nat) : String :=
  let digits := Nat.toDigits 10 (roundQuotient (q.numerator * Nat.pow 10 places) q.denominator)
  let digits := List.replicate (places + 1 - digits.length) '0' ++ digits
  let whole := digits.take (digits.length - places)
  String.ofList (if places = 0 then whole else whole ++ '.' :: digits.drop whole.length)

/-- The exponent of the first digit, searched from an estimate. -/
def exponentOf (q : Fraction) : Int :=
  let isBelow (e : Int) : Bool :=
    if 0 ≤ e then q.numerator < q.denominator * Nat.pow 10 e.toNat
    else q.numerator * Nat.pow 10 (-e).toNat < q.denominator
  let estimate : Int :=
    (((Nat.log2 q.numerator : Int) - (Nat.log2 q.denominator : Int)) * 30103) / 100000
  go isBelow 8 (estimate + 2)
where
  go (isBelow : Int → Bool) : Nat → Int → Int
    | 0, e => e
    | n + 1, e => if isBelow e then go isBelow n (e - 1) else e

/-- The digits of a fraction in scientific form, one of them before the point, and the exponent. -/
def scientificDigits (q : Fraction) (places : Nat) : List Char × Int :=
  if q.isZero then (List.replicate (places + 1) '0', 0)
  else
    let e := q.exponentOf
    let shift : Int := places - e
    let n := if 0 ≤ shift then roundQuotient (q.numerator * Nat.pow 10 shift.toNat) q.denominator
      else roundQuotient q.numerator (q.denominator * Nat.pow 10 (-shift).toNat)
    let digits := Nat.toDigits 10 n
    if digits.length > places + 1 then (digits.take (places + 1), e + 1) else (digits, e)

/-- An exponent with its sign and at least two digits. -/
def exponentText (mark : Char) (e : Int) : String :=
  let digits := toString e.natAbs
  String.ofList [mark, if e < 0 then '-' else '+'] ++ (if digits.length < 2 then "0" else "") ++
  digits

/-- The size of a fraction in scientific form. -/
def scientific (q : Fraction) (places : Nat) (mark : Char) : String :=
  let (digits, e) := q.scientificDigits places
  String.ofList (digits.take 1) ++
    (if places = 0 then "" else "." ++ String.ofList (digits.drop 1)) ++ exponentText mark e

/-- Zeros at the end of the places are dropped, and the point if nothing follows it. -/
def withoutTrailing (s : String) : String :=
  if s.toList.contains '.' then
    let cs := s.toList.reverse.dropWhile (· = '0')
    String.ofList (if cs.head? = some '.' then cs.tail else cs).reverse
  else s

/-- The size of a fraction with some number of digits, in the form that suits its exponent. -/
def general (q : Fraction) (digits : Nat) (mark : Char) (keepsZeros : Bool) : String :=
  let digits := max digits 1
  let (ds, e) := q.scientificDigits (digits - 1)
  let trim (s : String) : String := if keepsZeros then s else withoutTrailing s
  if -4 ≤ e ∧ e < digits then trim (q.fixed ((digits : Int) - 1 - e).toNat)
  else
    trim (String.ofList (ds.take 1) ++
        (if digits = 1 then "" else "." ++ String.ofList (ds.drop 1))) ++
      exponentText mark e

end Fraction

end CiHarness
