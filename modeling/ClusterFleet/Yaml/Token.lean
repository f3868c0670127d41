import ClusterFleet.Yaml.Mark

/-!
# YAML — tokens

A text as a list of tokens. Outside brackets indentation opens and closes blocks, and tokens say
where. What turns out to be a key only when its colon is met has the token for a key put before it;
until then its place is remembered, one place for every level of brackets. Such a key must end on
its own line and within 1024 characters.
-/

namespace ClusterFleet

namespace Yaml

/-- A token. -/
inductive Token where
  /-- A line that says how to read the document after it. -/
  | directive (d : Directive)
  /-- The mark before a document. -/
  | documentStart
  /-- The mark after a document. -/
  | documentEnd
  /-- A sequence by indentation begins. -/
  | blockSequenceStart
  /-- A mapping by indentation begins. -/
  | blockMappingStart
  /-- The innermost block ends. -/
  | blockEnd
  /-- A sequence in brackets begins. -/
  | flowSequenceStart
  /-- A sequence in brackets ends. -/
  | flowSequenceEnd
  /-- A mapping in braces begins. -/
  | flowMappingStart
  /-- A mapping in braces ends. -/
  | flowMappingEnd
  /-- The dash before an item. -/
  | blockEntry
  /-- The comma between items. -/
  | flowEntry
  /-- A key follows. -/
  | key
  /-- The value of a key follows. -/
  | value
  /-- The use of a name. -/
  | alias (name : String)
  /-- The naming of the node that follows. -/
  | anchor (name : String)
  /-- The tag of the node that follows. -/
  | tag (t : TagText)
  /-- A piece of text, and whether it is plain. -/
  | scalar (isPlain : Bool) (text : String)

/-- The place of something that may yet turn out to be a key. -/
structure KeyPlace where
  /-- The number of tokens before it. -/
  number : Nat
  /-- Whether it must turn out to be a key, since it stands where the keys of a block begin. -/
  isRequired : Bool
  /-- Where it begins. -/
  cursor : Cursor

/-- How far a text has been read. -/
structure Scan where
  /-- What is left to read. -/
  cursor : Cursor
  /-- The tokens so far, the last one first. -/
  tokens : List Token
  /-- The column of the innermost block; -1 outside all blocks. -/
  indent : Int
  /-- The columns of the blocks around it. -/
  indents : List Int
  /-- What may turn out to be a key on the innermost level of brackets. -/
  key : Option KeyPlace
  /-- The same for the levels around it. -/
  outerKeys : List (Option KeyPlace)
  /-- Whether a key may begin here. -/
  keyAllowed : Bool

namespace Scan

/-- Nothing is read yet. -/
def start (text : List Char) : Scan :=
  ⟨Cursor.start text, [], -1, [], none, [], true⟩

/-- Whether the place is within brackets. -/
def inFlow (s : Scan) : Bool :=
  !s.outerKeys.isEmpty

/-- Adds a token. -/
def emit (t : Token) (s : Scan) : Scan :=
  { s with tokens := t :: s.tokens }

/-- Puts a token after the first `n` tokens. -/
def emitAt (n : Nat) (t : Token) (s : Scan) : Scan :=
  let later := s.tokens.length - n
  { s with tokens := s.tokens.take later ++ t :: s.tokens.drop later }

/-- Goes over some characters. -/
def skip (n : Nat) (s : Scan) : Scan :=
  { s with cursor := s.cursor.skip n }

/-! ## Between tokens -/

/-- Goes over blanks, comments and line breaks. After a line break outside brackets a key may begin;
where one may begin, tabs may not stand. -/
def toToken : Nat → Scan → Scan
  | 0, s => s
  | fuel + 1, s =>
    let c := if s.cursor.column = 0 && s.cursor.isAt '\ufeff' then s.cursor.skip 1 else s.cursor
    let tabs := s.inFlow || !s.keyAllowed
    let c := (c.skipWhile fun x => x = ' ' || (tabs && x = '\t')).skipComment
    if c.looksAt 0 isBreak then
      toToken fuel { s with cursor := c.takeBreak.2, keyAllowed := s.keyAllowed || !s.inFlow }
    else { s with cursor := c }

/-! ## Blocks -/

/-- Closes the blocks that are further to the right than a column. -/
def unroll (column : Int) (s : Scan) : Scan :=
  if s.inFlow then s
  else
    -- outside all blocks the column is -1, so no column closes more than there is
    let rec close : List Int → Int → List Token → Int × List Int × List Token
      | [], indent, tokens => (indent, [], tokens)
      | outer :: rest, indent, tokens =>
        if column < indent then close rest outer (.blockEnd :: tokens)
        else (indent, outer :: rest, tokens)
    let (indent, indents, tokens) := close s.indents s.indent s.tokens
    { s with indent, indents, tokens }

/-- Opens a block at a column after the first `number` tokens, unless there is one. -/
def roll (column number : Nat) (t : Token) (s : Scan) : Scan :=
  if s.inFlow || (column : Int) ≤ s.indent then s
  else emitAt number t { s with indent := column, indents := s.indent :: s.indents }

/-- Opens a block here, where a key must be allowed to begin. -/
def rollHere (t : Token) (s : Scan) : Option Scan :=
  if s.inFlow then some s
  else if s.keyAllowed then some (s.roll s.cursor.column s.tokens.length t)
  else none

/-! ## Keys that are not known yet -/

/-- Whether a key that began at a place can still end here. -/
def canEnd (place : KeyPlace) (here : Cursor) : Bool :=
  here.line ≤ place.cursor.line && here.index ≤ place.cursor.index + 1024

/-- What is left of a place for a key; a key that is required must not be given up. -/
def refresh (here : Cursor) : Option KeyPlace → Option (Option KeyPlace)
  | none => some none
  | some place =>
    if canEnd place here then some (some place)
    else if place.isRequired then none
    else some none

/-- Gives up all keys that have become too long. -/
def refreshKeys (s : Scan) : Option Scan := do
  let key ← refresh s.cursor s.key
  let outerKeys ← s.outerKeys.mapM (refresh s.cursor)
  return { s with key, outerKeys }

/-- Gives up the key on this level of brackets. -/
def dropKey (s : Scan) : Option Scan :=
  if s.key.any (·.isRequired) then none else some { s with key := none }

/-- Remembers that what begins here may be a key. -/
def saveKey (s : Scan) : Option Scan := do
  if s.keyAllowed then
    let isRequired := !s.inFlow && s.indent = s.cursor.column
    let s ← s.dropKey
    return { s with key := some ⟨s.tokens.length, isRequired, s.cursor⟩ }
  else return s

/-! ## Tokens -/

/-- The end of the text, which closes all blocks. -/
def finish (s : Scan) : Option (List Token) := do
  let s ← (s.unroll (-1)).dropKey
  return s.tokens.reverse

/-- A mark before or after a document. -/
def readDocumentMark (t : Token) (s : Scan) : Option Scan := do
  let s ← (s.unroll (-1)).dropKey
  return { (s.emit t).skip 3 with keyAllowed := false }

/-- A directive. -/
def readDirectiveLine (s : Scan) : Option Scan := do
  let s ← (s.unroll (-1)).dropKey
  let (d, cursor) ← readDirective s.cursor
  return { s.emit (.directive d) with cursor, keyAllowed := false }

/-- The beginning of brackets. They may be part of a key. -/
def openFlow (t : Token) (s : Scan) : Option Scan := do
  let s ← s.saveKey
  return { (s.emit t).skip 1 with key := none, outerKeys := s.key :: s.outerKeys, keyAllowed := true }

/-- The end of brackets. -/
def closeFlow (t : Token) (s : Scan) : Option Scan := do
  let s ← s.dropKey
  let s := { (s.emit t).skip 1 with keyAllowed := false }
  match s.outerKeys with
  | [] => return s
  | key :: outerKeys => return { s with key, outerKeys }

/-- A comma. -/
def readFlowEntry (s : Scan) : Option Scan := do
  let s ← s.dropKey
  return { (s.emit .flowEntry).skip 1 with keyAllowed := true }

/-- A dash. -/
def readBlockEntry (s : Scan) : Option Scan := do
  let s ← (← s.rollHere .blockSequenceStart).dropKey
  return { (s.emit .blockEntry).skip 1 with keyAllowed := true }

/-- A question mark. -/
def readKey (s : Scan) : Option Scan := do
  let s ← (← s.rollHere .blockMappingStart).dropKey
  return { (s.emit .key).skip 1 with keyAllowed := !s.inFlow }

/-- A colon. If there is something that may be a key, it is one. -/
def readValue (s : Scan) : Option Scan := do
  match s.key with
  | some place =>
    -- the key has been read already, so its sign goes in front of it
    let s := s.emitAt place.number .key
    let s := s.roll place.cursor.column place.number .blockMappingStart
    return { (s.emit .value).skip 1 with key := none, keyAllowed := false }
  | none =>
    let s ← s.rollHere .blockMappingStart
    return { (s.emit .value).skip 1 with keyAllowed := !s.inFlow }

/-- Something that may be a key and is over before a key may begin again. -/
def readMark (read : Cursor → Option (α × Cursor)) (token : α → Token) (s : Scan) :
    Option Scan := do
  let s ← s.saveKey
  let (x, cursor) ← read s.cursor
  return { s.emit (token x) with cursor, keyAllowed := false }

/-- Text between quotes. -/
def readQuoted (quote : Char) (s : Scan) : Option Scan :=
  s.readMark (quotedScalar quote) fun text => .scalar false (String.ofList text)

/-- Text on indented lines, which cannot be a key. -/
def readBlockScalar (literal : Bool) (s : Scan) : Option Scan := do
  let s ← s.dropKey
  let (text, cursor) ← blockScalar literal s.indent s.cursor
  return { s.emit (.scalar false (String.ofList text)) with cursor, keyAllowed := true }

/-- Plain text. If a line break follows it, a key may begin again. -/
def readPlain (s : Scan) : Option Scan := do
  let s ← s.saveKey
  let (text, keyAllowed, cursor) ← plainScalar s.inFlow (s.indent + 1).toNat s.cursor
  return { s.emit (.scalar true (String.ofList text)) with cursor, keyAllowed }

/-- Whether plain text may begin with a character that means something else elsewhere: a dash before
a blank does not begin text, nor do a question mark and a colon within brackets or before a blank. -/
def beginsPlain (x : Char) (s : Scan) : Bool :=
  if x = '-' then !s.cursor.looksAt 1 isSpace
  else if x = '?' || x = ':' then !s.inFlow && !s.cursor.wordEndsAt 1
  else !(isSpace x || ",[]\x7b\x7d#&*!|>'\"%@\x60".contains x)

/-- The token that begins with a character. -/
def readToken (x : Char) (s : Scan) : Option Scan :=
  let wordEnds := s.cursor.wordEndsAt 1
  if s.cursor.column = 0 && x = '%' then s.readDirectiveLine
  else if s.cursor.isTriple '-' then s.readDocumentMark .documentStart
  else if s.cursor.isTriple '.' then s.readDocumentMark .documentEnd
  else if x = '[' then s.openFlow .flowSequenceStart
  else if x = '\x7b' then s.openFlow .flowMappingStart
  else if x = ']' then s.closeFlow .flowSequenceEnd
  else if x = '\x7d' then s.closeFlow .flowMappingEnd
  else if x = ',' then s.readFlowEntry
  else if x = '-' && wordEnds then s.readBlockEntry
  else if x = '?' && (s.inFlow || wordEnds) then s.readKey
  else if x = ':' && (s.inFlow || wordEnds) then s.readValue
  else if x = '*' then s.readMark readName .alias
  else if x = '&' then s.readMark readName .anchor
  else if x = '!' then s.readMark (readTag s.inFlow) .tag
  else if x = '|' && !s.inFlow then s.readBlockScalar true
  else if x = '>' && !s.inFlow then s.readBlockScalar false
  else if x = '\'' || x = '"' then s.readQuoted x
  else if s.beginsPlain x then s.readPlain
  else none

/-- Reads tokens to the end of the text. -/
def run : Nat → Scan → Option (List Token)
  | 0, _ => none
  | fuel + 1, s => do
    let s := s.toToken (s.cursor.rest.length + 1)
    let s ← s.refreshKeys
    let s := s.unroll s.cursor.column
    match s.cursor.rest with
    | [] => s.finish
    | x :: _ => run fuel (← s.readToken x)

end Scan

/-- The tokens of a text; none for a text that cannot be cut into tokens. -/
def tokens? (text : List Char) : Option (List Token) :=
  Scan.run (text.length + 1) (Scan.start text)

end Yaml

end ClusterFleet
