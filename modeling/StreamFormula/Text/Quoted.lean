import StreamFormula.Text.Printable

/-!
# Quoted text

A text between double quotes, on one line and in printable characters only. Quotes, backslashes and
the usual control characters have short escapes, and any other character that would not show itself
is written as its code.
-/

namespace StreamFormula.Text

/-- The lower-case hexadecimal code of a character, in braces. -/
def codeEscape (c : Char) : List Char := ['\\', 'u', '{'] ++ Nat.toDigits 16 c.toNat ++ ['}']

/-- A character as it stands in a quoted text. -/
def escape (c : Char) : List Char :=
  if c = '"' then ['\\', '"']
  else if c = '\\' then ['\\', '\\']
  else if c = '\n' then ['\\', 'n']
  else if c = '\r' then ['\\', 'r']
  else if c = '\t' then ['\\', 't']
  else if c = '\x00' then ['\\', '0']
  else if isPrintable c then [c]
  else codeEscape c

/-- A text between quotes. -/
def quote (text : String) : String :=
  String.ofList ('"' :: text.toList.flatMap escape ++ ['"'])

end StreamFormula.Text
