import PriorArt.Text.Printable

/-!
# Quoted text

A text in double quotes, as messages show the text of an identifier: what could not be told apart
on a screen is written by its name or by its code point.
-/

namespace PriorArt.Text

/-- The digits of a code point in lower-case hexadecimal, without leading zeros. -/
def hexadecimal (n : Nat) : List Char :=
  Nat.toDigits 16 n

/-- A character inside quotes: the quote and the backslash are escaped, line breaks, tabs and the
null character have a name, and what is not printable or only extends its neighbour is written by
its code point. -/
def quoteChar (c : Char) : List Char :=
  if c = '"' then ['\\', '"']
  else if c = '\\' then ['\\', '\\']
  else if c = '\n' then ['\\', 'n']
  else if c = '\r' then ['\\', 'r']
  else if c = '\t' then ['\\', 't']
  else if c = '\x00' then ['\\', '0']
  else if isPrintable c && !isExtending c then [c]
  else ['\\', 'u', '\x7b'] ++ hexadecimal c.toNat ++ ['\x7d']

def quote (s : String) : String :=
  String.ofList ('"' :: s.toList.flatMap quoteChar ++ ['"'])

end PriorArt.Text
