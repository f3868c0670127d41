import ClusterFleet.Decimal.Double
import ClusterFleet.Json.Basic
import ClusterFleet.Text.Ranges

/-!
# JSON — writing text

The compact text of a value, for requests and single-line output, and the indented text, for
output that is read by people.
-/

namespace ClusterFleet

namespace Json

open Text

/-- One character inside a string: the quote, the backslash and the control characters are
escaped, every other character stands for itself. -/
def escapedChar (c : Char) : List Char :=
  if c = '"' then ['\\', '"']
  else if c = '\\' then ['\\', '\\']
  else if c = '\x08' then ['\\', 'b']
  else if c = '\x0c' then ['\\', 'f']
  else if c = '\n' then ['\\', 'n']
  else if c = '\r' then ['\\', 'r']
  else if c = '\t' then ['\\', 't']
  else if c.toNat < 0x20 then
    ['\\', 'u', '0', '0', hexDigit (c.toNat / 16), hexDigit c.toNat]
  else [c]

/-- A text as a JSON string. -/
def stringText (s : String) : List Char :=
  '"' :: s.toList.flatMap escapedChar ++ ['"']

/-- A number as JSON. -/
def numberText : Number → List Char
  | .int n => (toString n).toList
  | .real x => (Decimal.documentText x).toList

mutual

/-- The text of a value without any blanks. -/
def compactChars : Json → List Char
  | .null => ['n', 'u', 'l', 'l']
  | .bool true => ['t', 'r', 'u', 'e']
  | .bool false => ['f', 'a', 'l', 's', 'e']
  | .number n => numberText n
  | .string s => stringText s
  | .array items => '[' :: compactItems items ++ [']']
  | .object fields => '\x7b' :: compactFields fields ++ ['\x7d']

/-- The items of an array, with commas between them. -/
def compactItems : List Json → List Char
  | [] => []
  | [v] => compactChars v
  | v :: rest => compactChars v ++ ',' :: compactItems rest

/-- The fields of an object, with commas between them. -/
def compactFields : List (String × Json) → List Char
  | [] => []
  | [(k, v)] => stringText k ++ ':' :: compactChars v
  | (k, v) :: rest => stringText k ++ ':' :: compactChars v ++ ',' :: compactFields rest

end

/-- A line break and the blanks in front of an item at the given depth, two for each level. -/
def newline (depth : Nat) : List Char :=
  '\n' :: List.replicate (2 * depth) ' '

mutual

/-- The text of a value with each item on a line of its own. -/
def indentedChars (depth : Nat) : Json → List Char
  | .array (v :: rest) =>
    '[' :: indentedItems (depth + 1) (v :: rest) ++ newline depth ++ [']']
  | .object (p :: rest) =>
    '\x7b' :: indentedFields (depth + 1) (p :: rest) ++ newline depth ++ ['\x7d']
  | .array [] => ['[', ']']
  | .object [] => ['\x7b', '\x7d']
  | .null => compactChars .null
  | .bool b => compactChars (.bool b)
  | .number n => numberText n
  | .string s => stringText s

/-- The items of an array, each on its line. -/
def indentedItems (depth : Nat) : List Json → List Char
  | [] => []
  | [v] => newline depth ++ indentedChars depth v
  | v :: rest => newline depth ++ indentedChars depth v ++ ',' :: indentedItems depth rest

/-- The fields of an object, each on its line. -/
def indentedFields (depth : Nat) : List (String × Json) → List Char
  | [] => []
  | [(k, v)] => newline depth ++ stringText k ++ ':' :: ' ' :: indentedChars depth v
  | (k, v) :: rest =>
    newline depth ++ stringText k ++ ':' :: ' ' :: indentedChars depth v
      ++ ',' :: indentedFields depth rest

end

/-- The compact text of a value. -/
def compact (v : Json) : String :=
  String.ofList (compactChars v)

/-- The indented text of a value. -/
def indented (v : Json) : String :=
  String.ofList (indentedChars 0 v)

end Json

end ClusterFleet
