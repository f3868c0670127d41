import ClusterFleet.Decimal.Numeral
import ClusterFleet.Yaml.Cursor

/-!
# YAML — scalars

The four ways to write a piece of text: plain, between single or double quotes, and as a block of
indented lines. Line breaks inside plain and quoted text are folded: a single one is a space, of
several the first is dropped.
-/

namespace ClusterFleet

namespace Yaml

/-! ## Blanks and line breaks between words -/

/-- What stands between two words. -/
structure Gap where
  /-- Blanks, where there is no line break. -/
  blanks : List Char
  /-- The first line break. -/
  first : List Char
  /-- The other line breaks. -/
  later : List Char
  /-- Whether there is a line break at all. -/
  isBroken : Bool

namespace Gap

/-- Nothing at all. -/
def none : Gap := ⟨[], [], [], false⟩

/-- A line break that was escaped, which leaves nothing behind. -/
def escapedBreak : Gap := ⟨[], [], [], true⟩

/-- The gap with one more blank. Blanks around line breaks count for nothing. -/
def addBlank (x : Char) (g : Gap) : Gap :=
  if g.isBroken then g else { g with blanks := g.blanks ++ [x] }

/-- The gap with one more line break. -/
def addBreak (b : List Char) (g : Gap) : Gap :=
  if g.isBroken then { g with later := g.later ++ b } else ⟨[], b, [], true⟩

/-- The text that stands for a gap. -/
def text (g : Gap) : List Char :=
  if g.isBroken then
    if g.first = ['\n'] then (if g.later.isEmpty then [' '] else g.later)
    else g.first ++ g.later
  else g.blanks

/-- Goes over a gap. On a line after the first, tabs may not stand before the column `indent`. -/
def read (indent : Nat) : Nat → Gap → Cursor → Option (Gap × Cursor)
  | 0, g, c => some (g, c)
  | fuel + 1, g, c =>
    match c.rest with
    | [] => some (g, c)
    | x :: _ =>
      if isSpace x then
        if g.isBroken && x = '\t' && c.column < indent then Option.none
        else read indent fuel (g.addBlank x) (c.skip 1)
      else if isBreak x then
        let (b, c) := c.takeBreak
        read indent fuel (g.addBreak b) c
      else some (g, c)

end Gap

/-! ## Plain text -/

/-- Whether a character ends plain text within brackets. -/
def isFlowMark (x : Char) : Bool :=
  x = ',' || x = '[' || x = ']' || x = '\x7b' || x = '\x7d'

/-- The characters up to the end of a plain word. Within brackets a colon must not stand before a
mark. -/
def plainWord? (inFlow : Bool) : List Char → Option (List Char)
  | [] => some []
  | x :: rest =>
    if isSpace x || isBreak x then some []
    else if inFlow && x = ':' && rest.head?.any (fun y => isFlowMark y || y = '?') then none
    else if x = ':' && rest.head?.all (fun y => isSpace y || isBreak y) then some []
    else if inFlow && isFlowMark x then some []
    else (plainWord? inFlow rest).map (x :: ·)

/-- The words of plain text from here on, after the words and the gap read so far. With the text
comes whether a line break follows it. -/
def plainWords (inFlow : Bool) (indent : Nat) :
    Nat → List Char → Gap → Cursor → Option (List Char × Bool × Cursor)
  | 0, _, _, _ => none
  | fuel + 1, text, gap, c =>
    if c.atDocumentMark || c.isAt '#' then some (text, gap.isBroken, c)
    else
      match plainWord? inFlow c.rest with
      | none => none
      | some [] => some (text, gap.isBroken, c)
      | some word =>
        let text := text ++ gap.text ++ word
        let c := c.skip word.length
        if c.atEnd || !c.wordEndsAt 0 then some (text, false, c)
        else
          match Gap.read indent c.rest.length .none c with
          | none => none
          | some (gap, c) =>
            if !inFlow && c.column < indent then some (text, gap.isBroken, c)
            else plainWords inFlow indent fuel text gap c

/-- Plain text that begins here. Its further lines must reach the column `indent`. -/
def plainScalar (inFlow : Bool) (indent : Nat) (c : Cursor) :
    Option (List Char × Bool × Cursor) :=
  plainWords inFlow indent (c.rest.length + 1) [] .none c

/-! ## Quoted text -/

/-- The number that hexadecimal digits stand for, if they are all digits. -/
def hexNumber? (cs : List Char) : Option Nat :=
  cs.foldlM (fun n c => (Text.hexValue? c).map (n * 16 + ·)) 0

/-- The character that a letter stands for after a backslash. -/
def escaped? : Char → Option Char
  | '0' => some '\x00'
  | 'a' => some '\x07'
  | 'b' => some '\x08'
  | 't' => some '\t'
  | '\t' => some '\t'
  | 'n' => some '\n'
  | 'v' => some '\x0b'
  | 'f' => some '\x0c'
  | 'r' => some '\r'
  | 'e' => some '\x1b'
  | ' ' => some ' '
  | '"' => some '"'
  | '/' => some '/'
  | '\\' => some '\\'
  | 'N' => some '\x85'
  | '_' => some '\xa0'
  | 'L' => some '\u2028'
  | 'P' => some '\u2029'
  | _ => none

/-- The number of hexadecimal digits that follow a letter after a backslash. -/
def escapeDigits : Char → Nat
  | 'x' => 2
  | 'u' => 4
  | 'U' => 8
  | _ => 0

/-- The character of a number, if there is one. -/
def charOf? (n : Nat) : Option Char :=
  if h : n.isValidChar then some ⟨n.toUInt32, by
    have hlt : n < 4294967296 := by
      simp only [Nat.isValidChar] at h
      omega
    simpa [UInt32.isValidChar, Nat.mod_eq_of_lt hlt] using h⟩
  else none

/-- The character that an escape stands for, and the number of characters it takes. -/
def escape? : List Char → Option (Char × Nat)
  | '\\' :: e :: rest =>
    let digits := escapeDigits e
    if digits = 0 then (escaped? e).map (·, 2)
    else if rest.length < digits then none
    else ((hexNumber? (rest.take digits)).bind charOf?).map (·, 2 + digits)
  | _ => none

/-- The characters of a quoted word, and whether an escaped line break ends it. -/
def quotedWord (quote : Char) : Nat → List Char → Cursor → Option (List Char × Bool × Cursor)
  | 0, _, _ => none
  | fuel + 1, text, c =>
    match c.rest with
    | [] => some (text, false, c)
    | x :: rest =>
      if isSpace x || isBreak x then some (text, false, c)
      else if x = quote then
        if quote = '\'' && rest.head? = some '\'' then
          quotedWord quote fuel (text ++ ['\'']) (c.skip 2)
        else some (text, false, c)
      else if quote = '"' && x = '\\' then
        if rest.head?.any isBreak then some (text, true, (c.skip 1).takeBreak.2)
        else match escape? c.rest with
          | none => none
          | some (y, n) => quotedWord quote fuel (text ++ [y]) (c.skip n)
      else quotedWord quote fuel (text ++ [x]) (c.skip 1)

/-- The words of quoted text up to the closing quote. -/
def quotedWords (quote : Char) : Nat → List Char → Cursor → Option (List Char × Cursor)
  | 0, _, _ => none
  | fuel + 1, text, c =>
    if c.atDocumentMark || c.atEnd then none
    else
      match quotedWord quote (c.rest.length + 1) [] c with
      | none => none
      | some (word, isBroken, c) =>
        let text := text ++ word
        if c.isAt quote then some (text, c.skip 1)
        else
          let gap := if isBroken then Gap.escapedBreak else Gap.none
          match Gap.read 0 c.rest.length gap c with
          | none => none
          | some (gap, c) => quotedWords quote fuel (text ++ gap.text) c

/-- Quoted text that begins here with its quote. -/
def quotedScalar (quote : Char) (c : Cursor) : Option (List Char × Cursor) :=
  quotedWords quote (c.rest.length + 1) [] (c.skip 1)

/-! ## Blocks of lines -/

/-- What becomes of the line breaks at the end of a block. -/
inductive Chomping where
  /-- All are dropped. -/
  | strip
  /-- One is kept. -/
  | clip
  /-- All are kept. -/
  | keep
  deriving DecidableEq, Repr

/-- The sign for a treatment of line breaks, if there is one here. -/
def readChomping (c : Cursor) : Option Chomping × Cursor :=
  if c.isAt '+' then (some .keep, c.skip 1)
  else if c.isAt '-' then (some .strip, c.skip 1)
  else (none, c)

/-- The digit for an indentation, if there is one here; it must not be zero. -/
def readIndentDigit (c : Cursor) : Option (Nat × Cursor) :=
  match c.rest.head?.filter Decimal.isDigit with
  | none => some (0, c)
  | some d => if d = '0' then none else some (Decimal.digitValue d, c.skip 1)

/-- The head of a block after its first sign: treatment of line breaks and indentation, in either
order; zero stands for an indentation that is not given. -/
def readBlockHead (c : Cursor) : Option (Chomping × Nat × Cursor) := do
  match readChomping c with
  | (some chomping, c) =>
    let (indent, c) ← readIndentDigit c
    return (chomping, indent, c)
  | (none, c) =>
    let (indent, c) ← readIndentDigit c
    if indent = 0 then return (.clip, 0, c)
    else
      let (chomping, c) := readChomping c
      return (chomping.getD .clip, indent, c)

/-- Goes over indentation and empty lines. An indentation of zero is not known yet; then every
space counts as indentation, and the deepest column reached is told. -/
def blockBreaks (indent : Nat) : Nat → List Char → Nat → Cursor → Option (List Char × Nat × Cursor)
  | 0, breaks, deepest, c => some (breaks, deepest, c)
  | fuel + 1, breaks, deepest, c =>
    let spaces := (c.rest.takeWhile (· = ' ')).length
    let c := c.skip (if indent = 0 then spaces else Nat.min spaces (indent - c.column))
    let deepest := Nat.max deepest c.column
    if (indent = 0 || c.column < indent) && c.isAt '\t' then none
    else if c.looksAt 0 isBreak then
      let (b, c) := c.takeBreak
      blockBreaks indent fuel (breaks ++ b) deepest c
    else some (breaks, deepest, c)

/-- The indentation of a block: the one found, but deeper than what is around it. -/
def blockIndent (around : Int) (deepest : Nat) : Nat :=
  Nat.max (Nat.max deepest (around + 1).toNat) 1

/-- The text of a block so far. -/
structure BlockText where
  /-- The lines that are certain. -/
  text : List Char
  /-- The line break after the last line. -/
  last : List Char
  /-- The empty lines after it. -/
  breaks : List Char
  /-- Whether the last line began with a blank. -/
  afterBlank : Bool

/-- The lines of a block. In a folded block the break between two lines that begin with no blank is
folded. -/
def blockLines (literal : Bool) (indent : Nat) : Nat → BlockText → Cursor → Option (BlockText × Cursor)
  | 0, b, c => some (b, c)
  | fuel + 1, b, c =>
    if c.column ≠ indent || c.atEnd then some (b, c)
    else
      let blank := c.looksAt 0 isSpace
      let folds := !literal && b.last.head? = some '\n' && !b.afterBlank && !blank
      let joint := if folds then (if b.breaks.isEmpty then [' '] else []) else b.last
      let (line, c) := c.takeWhile fun x => !isBreak x
      let (last, c) := c.takeBreak
      match blockBreaks indent (c.rest.length + 1) [] 0 c with
      | none => none
      | some (breaks, _, c) =>
        blockLines literal indent fuel ⟨b.text ++ joint ++ b.breaks ++ line, last, breaks, blank⟩ c

/-- The text of a whole block. -/
def BlockText.finish (chomping : Chomping) (b : BlockText) : List Char :=
  match chomping with
  | .strip => b.text
  | .clip => b.text ++ b.last
  | .keep => b.text ++ b.last ++ b.breaks

/-- A block that begins here with its sign. The indentation around it is given. -/
def blockScalar (literal : Bool) (around : Int) (c : Cursor) : Option (List Char × Cursor) := do
  let (chomping, digit, c) ← readBlockHead (c.skip 1)
  let c ← c.finishLine?
  let given := if digit = 0 then 0 else (if 0 ≤ around then around.toNat + digit else digit)
  let (breaks, deepest, c) ← blockBreaks given (c.rest.length + 1) [] 0 c
  let indent := if given = 0 then blockIndent around deepest else given
  let (b, c) ← blockLines literal indent (c.rest.length + 1) ⟨[], [], breaks, false⟩ c
  return (b.finish chomping, c)

end Yaml

end ClusterFleet
