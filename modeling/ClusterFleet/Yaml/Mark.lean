import ClusterFleet.Yaml.Scalar

/-!
# YAML — names, tags and directives

What stands before a node, or before a whole document, to say something about it: names for later
use, tags, and directives that set the version or abbreviate tags.
-/

namespace ClusterFleet

namespace Yaml

/-! ## Names -/

/-- Whether a character may follow a name at once. -/
def endsName (x : Char) : Bool :=
  "?:,]\x7d%@\x60".contains x

/-- The name of a node, after the sign for naming it or for using it. -/
def readName (c : Cursor) : Option (String × Cursor) :=
  let (name, c) := (c.skip 1).takeWhile isNameChar
  if name.isEmpty || !(c.wordEndsAt 0 || c.looksAt 0 endsName) then none
  else some (String.ofList name, c)

/-! ## Tags -/

/-- A tag as it is written: the handle, empty for a tag in full, and what follows. -/
structure TagText where
  /-- What the directives say the tag begins with. -/
  handle : String
  /-- The rest of the tag. -/
  rest : String

/-- The number of bytes of a character, by its first byte. -/
def byteCount? (b : Nat) : Option Nat :=
  if b < 0x80 then some 1
  else if b / 32 = 6 then some 2
  else if b / 16 = 14 then some 3
  else if b / 8 = 30 then some 4
  else none

/-- The bytes that are written as a percent sign and two digits each. -/
def readBytes : Nat → List Char → Option (List Nat)
  | 0, _ => some []
  | n + 1, '%' :: a :: b :: rest => do
    let byte ← hexNumber? [a, b]
    let bytes ← readBytes n rest
    return byte :: bytes
  | _ + 1, _ => none

/-- The character of some bytes. Where there is none, the replacement character stands for it, since
no tag that means anything has one. -/
def charOfBytes (bytes : List Nat) : Char :=
  let bytes := ByteArray.mk (bytes.map Nat.toUInt8).toArray
  (((String.fromUTF8? bytes).map String.toList).bind List.head?).getD '\ufffd'

/-- A character written as bytes, each with a percent sign, and the number of places it takes. -/
def readEscape (cs : List Char) : Option (Char × Nat) := do
  let first ← (← readBytes 1 cs).head?
  let count ← byteCount? first
  let bytes ← readBytes count cs
  if bytes.tail.all (fun b => b / 64 = 2) then return (charOfBytes bytes, 3 * count) else none

/-- Whether a character can stand in a tag as it is. -/
def isTagChar (inFull : Bool) (x : Char) : Bool :=
  isNameChar x || ";/?:@&=+$.!~*'()".contains x || (inFull && ",[]".contains x)

/-- The characters of a tag from here on. -/
def readTagChars (inFull : Bool) : Nat → List Char → Cursor → Option (List Char × Cursor)
  | 0, text, c => some (text, c)
  | fuel + 1, text, c =>
    match c.rest with
    | [] => some (text, c)
    | x :: _ =>
      if x = '%' then
        match readEscape c.rest with
        | none => none
        | some (y, n) => readTagChars inFull fuel (text ++ [y]) (c.skip n)
      else if isTagChar inFull x then readTagChars inFull fuel (text ++ [x]) (c.skip 1)
      else some (text, c)

/-- The characters of a tag, of which there must be one at least. -/
def readTagRest (inFull : Bool) (c : Cursor) : Option (String × Cursor) := do
  let (text, c) ← readTagChars inFull c.rest.length [] c
  if text.isEmpty then none else return (String.ofList text, c)

/-- A handle, which begins with an exclamation mark and should end with one. -/
def readHandle (c : Cursor) : Option (List Char × Cursor) :=
  if c.isAt '!' then
    let (name, c) := (c.skip 1).takeWhile isNameChar
    if c.isAt '!' then some ('!' :: name ++ ['!'], c.skip 1) else some ('!' :: name, c)
  else none

/-- Whether some text is a handle with an end of its own. -/
def isFullHandle (text : List Char) : Bool :=
  2 ≤ text.length && text.getLast? = some '!'

/-- A tag within angle brackets, which stands for itself. -/
def readTagInFull (c : Cursor) : Option (TagText × Cursor) := do
  let (text, c) ← readTagRest true (c.skip 2)
  if c.isAt '>' then return (⟨"", text⟩, c.skip 1) else none

/-- A tag that begins with a handle. An exclamation mark alone is a tag in full. -/
def readShortTag (c : Cursor) : Option (TagText × Cursor) := do
  let (handle, c) ← readHandle c
  if isFullHandle handle then
    let (text, c) ← readTagRest false c
    return (⟨String.ofList handle, text⟩, c)
  else
    let (text, c) ← readTagChars false c.rest.length handle.tail c
    return (if text.isEmpty then ⟨"", "!"⟩ else ⟨"!", String.ofList text⟩, c)

/-- A tag. A blank must follow it, or within brackets a comma. -/
def readTag (inFlow : Bool) (c : Cursor) : Option (TagText × Cursor) := do
  let (tag, c) ← if c.looksAt 1 (· = '<') then readTagInFull c else readShortTag c
  if c.wordEndsAt 0 || (inFlow && c.isAt ',') then return (tag, c) else none

/-! ## Directives -/

/-- A line that says how to read the document after it. -/
inductive Directive where
  /-- The version of the language. -/
  | version (major minor : Nat)
  /-- What a handle stands for. -/
  | tag (handle start : String)

/-- A number of at most nine digits. -/
def readVersionNumber (c : Cursor) : Option (Nat × Cursor) :=
  let (digits, c) := c.takeWhile Decimal.isDigit
  if digits.isEmpty || 9 < digits.length then none
  else some (Decimal.value digits, c)

/-- The value of a version directive. -/
def readVersion (c : Cursor) : Option (Directive × Cursor) := do
  let (major, c) ← readVersionNumber (c.skipWhile isSpace)
  if !c.isAt '.' then none
  let (minor, c) ← readVersionNumber (c.skip 1)
  return (.version major minor, c)

/-- The value of a tag directive. -/
def readTagDirective (c : Cursor) : Option (Directive × Cursor) := do
  let (handle, c) ← readHandle (c.skipWhile isSpace)
  if !(isFullHandle handle || handle = ['!']) || !c.looksAt 0 isSpace then none
  let (start, c) ← readTagRest true (c.skipWhile isSpace)
  if c.wordEndsAt 0 then return (.tag (String.ofList handle) start, c) else none

/-- A directive with the rest of its line. -/
def readDirective (c : Cursor) : Option (Directive × Cursor) := do
  let (name, c) := (c.skip 1).takeWhile isNameChar
  if !c.wordEndsAt 0 then none
  let (directive, c) ←
    if name = "YAML".toList then readVersion c
    else if name = "TAG".toList then readTagDirective c
    else none
  let c ← c.finishLine?
  return (directive, c)

end Yaml

end ClusterFleet
