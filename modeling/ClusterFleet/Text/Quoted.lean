import ClusterFleet.Text.Hidden

/-!
# Text — quoted text

How a text is shown inside a message: between double quotes, the quote and the backslash escaped,
the common control characters by their letter, and every other hidden character by its code point
in braces. An apostrophe stands for itself.
-/

namespace ClusterFleet

namespace Text

/-- The escape of a code point: its hexadecimal numeral in braces. -/
def codePointEscape (c : Char) : List Char :=
  ['\\', 'u', '\x7b'] ++ hexNumeral c.toNat ++ ['\x7d']

/-- One character of a quoted text. -/
def quotedChar (c : Char) : List Char :=
  if c = '\x00' then ['\\', '0']
  else if c = '\t' then ['\\', 't']
  else if c = '\r' then ['\\', 'r']
  else if c = '\n' then ['\\', 'n']
  else if c = '"' then ['\\', '"']
  else if c = '\\' then ['\\', '\\']
  else if isHidden c then codePointEscape c
  else [c]

/-- A text between double quotes. -/
def quoted (s : String) : String :=
  String.ofList ('"' :: s.toList.flatMap quotedChar ++ ['"'])

end Text

end ClusterFleet
