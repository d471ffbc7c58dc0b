import Docwright.Text.Printable

/-!
# Quoted text

A text in quotes, on one line and in visible characters only: the quotes are single unless the text
holds a single and no double one; the backslash and the quote are escaped, so are the tab and the
ends of lines, and any other character that cannot be shown is written as its code point.
-/

namespace Docwright.Text

/-- A number in lower-case hexadecimal with at least the given count of digits. -/
def hexText (count n : Nat) : List Char :=
  let digits := Nat.toDigits 16 n
  List.replicate (count - digits.length) '0' ++ digits

/-- A character as its code point. -/
def codeEscape (c : Char) : List Char :=
  let n := c.toNat
  if n < 0x100 then '\\' :: 'x' :: hexText 2 n
  else if n < 0x10000 then '\\' :: 'u' :: hexText 4 n
  else '\\' :: 'U' :: hexText 8 n

/-- A character within quotes; `visible` tells which characters are shown as themselves. -/
def quotedChar (visible : Char → Bool) (quote c : Char) : List Char :=
  if c == quote || c == '\\' then ['\\', c]
  else if c == '\t' then ['\\', 't']
  else if c == '\n' then ['\\', 'n']
  else if c == '\r' then ['\\', 'r']
  else if visible c then [c]
  else codeEscape c

/-- The quote for a text. -/
def quoteFor (text : List Char) : Char :=
  if text.contains '\'' && !text.contains '"' then '"' else '\''

/-- A text in quotes, printable characters shown as themselves. -/
def quoted (text : List Char) : List Char :=
  let quote := quoteFor text
  quote :: text.flatMap (quotedChar isPrintable quote) ++ [quote]

/-- A text with every character beyond ASCII as its code point. -/
def ascii (text : List Char) : List Char :=
  text.flatMap fun c => if c.toNat < 128 then [c] else codeEscape c

end Docwright.Text
