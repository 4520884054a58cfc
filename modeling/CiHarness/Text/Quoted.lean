import CiHarness.Text.Unseen

/-!
# Quoted text

A text is shown between double quotes on one line: the quote and the backslash are escaped, four
controls have a letter, and every other character without a visible form is shown by its number in
hexadecimal. An apostrophe stands for itself.
-/
namespace CiHarness.Text

/-- The number of a character between braces, in lower-case hexadecimal without padding. -/
def numbered (c : Char) : List Char :=
  '\\' :: 'u' :: '\x7b' :: (Nat.toDigits 16 c.toNat ++ ['\x7d'])

/-- A character as it stands between double quotes. -/
def quoteChar (c : Char) : List Char :=
  if c = '\x00' then ['\\', '0']
  else if c = '\t' then ['\\', 't']
  else if c = '\n' then ['\\', 'n']
  else if c = '\r' then ['\\', 'r']
  else if c = '"' then ['\\', '"']
  else if c = '\\' then ['\\', '\\']
  else if isUnseen c then numbered c
  else [c]

/-- A text between double quotes. -/
def quoted (s : String) : String :=
  String.ofList ('"' :: (s.toList.flatMap quoteChar ++ ['"']))

end CiHarness.Text
