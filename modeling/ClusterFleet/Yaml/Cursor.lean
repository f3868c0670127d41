import ClusterFleet.Text.Ranges

/-!
# YAML — the place in a text

A YAML text is read from left to right, with an eye on lines and columns, since indentation means
something. Lines end in any of five ways. A text may hold no control characters except for tabs and
line breaks.
-/

namespace ClusterFleet

namespace Yaml

/-- Whether a character is a space or a tab. -/
def isSpace (c : Char) : Bool :=
  c = ' ' || c = '\t'

/-- Whether a character ends a line: line feed, carriage return, next line, or one of the two
separators. -/
def isBreak (c : Char) : Bool :=
  c = '\n' || c = '\r' || c = '\x85' || c = '\u2028' || c = '\u2029'

/-- Whether a character can be part of a name. -/
def isNameChar (c : Char) : Bool :=
  let n := c.toNat
  (48 ≤ n && n ≤ 57) || (65 ≤ n && n ≤ 90) || (97 ≤ n && n ≤ 122) || n = 45 || n = 95

/-- Whether a text may hold a character. -/
def isAllowed (c : Char) : Bool :=
  let n := c.toNat
  n = 9 || n = 10 || n = 13 || (0x20 ≤ n && n ≤ 0x7E) || n = 0x85 || (0xA0 ≤ n && n ≤ 0xFFFD) ||
    0x10000 ≤ n

/-- A place in a text: what follows, and how far it is from the start. -/
structure Cursor where
  /-- The text from here on. -/
  rest : List Char
  /-- The number of characters before. -/
  index : Nat
  /-- The number of lines before. -/
  line : Nat
  /-- The number of characters before on the same line. -/
  column : Nat

namespace Cursor

/-- The start of a text. -/
def start (text : List Char) : Cursor := ⟨text, 0, 0, 0⟩

/-- Whether the character at a distance has a property; the end of the text has none. -/
def looksAt (n : Nat) (p : Char → Bool) (c : Cursor) : Bool :=
  c.rest[n]?.any p

/-- Whether the character here is the given one. -/
def isAt (x : Char) (c : Cursor) : Bool :=
  c.looksAt 0 (· = x)

/-- Whether the text ends here. -/
def atEnd (c : Cursor) : Bool :=
  c.rest.isEmpty

/-- Whether a line, or the text, ends at a distance. -/
def lineEndsAt (n : Nat) (c : Cursor) : Bool :=
  c.rest[n]?.all isBreak

/-- Whether a word ends at a distance: with a blank, a line or the text. -/
def wordEndsAt (n : Nat) (c : Cursor) : Bool :=
  c.rest[n]?.all fun x => isSpace x || isBreak x

/-- Goes over some characters of the same line. -/
def skip (n : Nat) (c : Cursor) : Cursor :=
  ⟨c.rest.drop n, c.index + n, c.line, c.column + n⟩

/-- Goes over the characters with a property, of which no line break may be one, and takes them. -/
def takeWhile (p : Char → Bool) (c : Cursor) : List Char × Cursor :=
  let taken := c.rest.takeWhile p
  (taken, c.skip taken.length)

/-- Goes over the characters with a property, of which no line break may be one. -/
def skipWhile (p : Char → Bool) (c : Cursor) : Cursor :=
  (c.takeWhile p).2

/-- Goes over a line break, if there is one here, and takes it. The two separators are taken as
they are, every other break as a line feed. -/
def takeBreak (c : Cursor) : List Char × Cursor :=
  match c.rest with
  | '\r' :: '\n' :: rest => (['\n'], ⟨rest, c.index + 2, c.line + 1, 0⟩)
  | x :: rest =>
    if isBreak x then
      ([if x = '\u2028' || x = '\u2029' then x else '\n'], ⟨rest, c.index + 1, c.line + 1, 0⟩)
    else ([], c)
  | [] => ([], c)

/-- Goes over blanks and a comment. -/
def skipComment (c : Cursor) : Cursor :=
  if c.isAt '#' then c.skipWhile fun x => !isBreak x else c

/-- Whether a line begins here with three of a character and nothing else in the word. -/
def isTriple (x : Char) (c : Cursor) : Bool :=
  c.column = 0 && c.looksAt 0 (· = x) && c.looksAt 1 (· = x) && c.looksAt 2 (· = x) &&
    c.wordEndsAt 3

/-- Whether a document begins or ends here by its mark. -/
def atDocumentMark (c : Cursor) : Bool :=
  c.isTriple '-' || c.isTriple '.'

/-- Goes over the rest of a line on which only blanks and a comment may follow. -/
def finishLine? (c : Cursor) : Option Cursor :=
  let c := (c.skipWhile isSpace).skipComment
  if c.lineEndsAt 0 then some c.takeBreak.2 else none

end Cursor

end Yaml

end ClusterFleet
