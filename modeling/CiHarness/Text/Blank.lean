/-!
# Blank characters

The characters with the Unicode property White_Space, and the text that is left when blanks are
taken away at both ends. Blanks inside a text are kept.
-/
namespace CiHarness.Text

/-- White_Space is six blocks of code points and five single ones. -/
def isBlank (c : Char) : Bool :=
  let n := c.toNat
  (9 ≤ n && n ≤ 13) || n == 0x20 || n == 0x85 || n == 0xA0 || n == 0x1680 ||
    (0x2000 ≤ n && n ≤ 0x200A) || n == 0x2028 || n == 0x2029 || n == 0x202F || n == 0x205F ||
    n == 0x3000

/-- Blanks are dropped at the front. -/
def dropBlanks (cs : List Char) : List Char := cs.dropWhile isBlank

/-- Blanks are dropped at both ends. -/
def trimChars (cs : List Char) : List Char := (dropBlanks (dropBlanks cs).reverse).reverse

/-- Blanks are dropped at both ends of a text. -/
def trim (s : String) : String := String.ofList (trimChars s.toList)

end CiHarness.Text
