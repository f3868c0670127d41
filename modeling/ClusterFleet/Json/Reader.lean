import ClusterFleet.Decimal.Double
import ClusterFleet.Json.Basic
import ClusterFleet.Text.Ranges

/-!
# JSON — reading text

A reader of JSON documents. It accepts exactly the grammar of the format, refuses values nested
more than 127 deep and numbers beyond the range of doubles, and keeps of two fields with one name
the later one. A text that is no document is told apart by whether it merely ends too early.
-/

namespace ClusterFleet

namespace Json

namespace Reader

open Decimal Text

/-- Why a text is no document. -/
inductive Fault where
  /-- The text ends where more must follow. -/
  | ended
  /-- A character that cannot stand where it does. -/
  | invalid
  deriving DecidableEq, Repr

/-- A reader takes a part off the front of a text. -/
abbrev Part (α : Type) := Except Fault (α × List Char)

/-- The fault of a text that cannot go on as it does: it has ended, or goes on wrongly. -/
def stop : List Char → Except Fault α
  | [] => .error .ended
  | _ :: _ => .error .invalid

/-- The blanks of the format: space, tab, line feed and carriage return. -/
def isSpace (c : Char) : Bool :=
  c = ' ' || c = '\t' || c = '\n' || c = '\r'

/-- The text after its leading blanks. -/
def skip (cs : List Char) : List Char :=
  cs.dropWhile isSpace

/-- The value of four hexadecimal digits. -/
def hex4? (a b c d : Char) : Option Nat := do
  let a ← hexValue? a
  let b ← hexValue? b
  let c ← hexValue? c
  let d ← hexValue? d
  return ((a * 16 + b) * 16 + c) * 16 + d

/-- The character of an escape with one letter. -/
def letterEscape? : Char → Option Char
  | '"' => some '"'
  | '\\' => some '\\'
  | '/' => some '/'
  | 'b' => some '\x08'
  | 'f' => some '\x0c'
  | 'n' => some '\n'
  | 'r' => some '\r'
  | 't' => some '\t'
  | _ => none

/-- Puts a character in front of what was read. -/
def prepend (c : Char) : Part (List Char) → Part (List Char)
  | .ok (cs, rest) => .ok (c :: cs, rest)
  | .error fault => .error fault

/-- The rest of a string after its opening quote: its characters, and the text that follows the
closing quote. A high surrogate must be followed by a low one, and none may stand alone. -/
def readString : List Char → Part (List Char)
  | '"' :: rest => .ok ([], rest)
  | '\\' :: 'u' :: a :: b :: c :: d :: rest =>
    match hex4? a b c d with
    | none => .error .invalid
    | some n =>
      if 0xD800 ≤ n && n ≤ 0xDBFF then
        match rest with
        | '\\' :: 'u' :: a' :: b' :: c' :: d' :: rest' =>
          match hex4? a' b' c' d' with
          | none => .error .invalid
          | some m =>
            if 0xDC00 ≤ m && m ≤ 0xDFFF then
              prepend (Char.ofNat (0x10000 + (n - 0xD800) * 0x400 + (m - 0xDC00)))
                (readString rest')
            else .error .invalid
        -- an escape has six characters, and fewer may be the beginning of one
        | rest => if rest.length < 6 then .error .ended else .error .invalid
      else if 0xDC00 ≤ n && n ≤ 0xDFFF then .error .invalid
      else prepend (Char.ofNat n) (readString rest)
  | ['\\'] => .error .ended
  | '\\' :: e :: rest =>
    match letterEscape? e with
    | none => if e = 'u' then .error .ended else .error .invalid
    | some c => prepend c (readString rest)
  | c :: rest => if c.toNat < 0x20 then .error .invalid else prepend c (readString rest)
  | [] => .error .ended

/-- One or more digits. -/
def readDigits (cs : List Char) : Part (List Char) :=
  let ds := cs.takeWhile isDigit
  if ds.isEmpty then stop cs else .ok (ds, cs.dropWhile isDigit)

/-- The digits before the point: a zero alone, or digits that do not start with one. -/
def readWhole (cs : List Char) : Part (List Char) :=
  match cs with
  | '0' :: rest => .ok (['0'], rest)
  | _ => readDigits cs

/-- The value of a number from its parts. -/
def number? (negative : Bool) (whole fraction exponent : List Char) (plain : Bool) : Option Number :=
  let n := value whole
  if plain && !negative && n ≤ maxWord 64 then some (.int n)
  -- a zero with a sign is no integer
  else if plain && negative && n ≠ 0 && n ≤ Nat.pow 2 63 then some (.int (-(n : Int)))
  else do
    let e ← if exponent.isEmpty then some 0 else readExponent exponent
    let x := nearestDouble (value (whole ++ fraction)) (e - fraction.length)
    if x.isInf then none else some (.real (if negative then -x else x))

/-- The digits after a point, if there is one, and whether there is. -/
def readFraction (cs : List Char) : Part (List Char × Bool) :=
  match cs with
  | '.' :: r => (readDigits r).map fun p => ((p.1, true), p.2)
  | _ => .ok (([], false), cs)

/-- The exponent after its letter, if there is one: a minus sign, if it has one, and digits. -/
def readExponentPart (cs : List Char) : Part (List Char) :=
  match cs with
  | c :: r =>
    if c = 'e' || c = 'E' then
      match r with
      | '-' :: r' => (readDigits r').map fun p => ('-' :: p.1, p.2)
      | '+' :: r' => readDigits r'
      | _ => readDigits r
    else .ok ([], cs)
  | [] => .ok ([], cs)

/-- A number and the text after it. -/
def readNumber (cs : List Char) : Except Fault (Number × List Char) := do
  let (negative, cs) := match cs with
    | '-' :: r => (true, r)
    | _ => (false, cs)
  let (whole, rest) ← readWhole cs
  let ((fraction, hasPoint), rest) ← readFraction rest
  let (exponent, rest) ← readExponentPart rest
  match number? negative whole fraction exponent (!hasPoint && exponent.isEmpty) with
  | some n => return (n, rest)
  | none => .error .invalid

/-- The text after a given word. -/
def readWord (value : Json) : List Char → List Char → Part Json
  | [], cs => .ok (value, cs)
  | _ :: _, [] => .error .ended
  | w :: ws, c :: cs => if w = c then readWord value ws cs else .error .invalid

mutual

/-- A value and the text after it. The depth bounds the nesting, the fuel the number of items. -/
def readValue (depth : Nat) (cs : List Char) : Nat → Part Json
  | 0 => .error .invalid
  | fuel + 1 =>
    match skip cs with
    | [] => .error .ended
    | '"' :: rest => (readString rest).map fun r => (.string (String.ofList r.1), r.2)
    | '[' :: rest =>
      if depth = 0 then .error .invalid
      else match skip rest with
        | ']' :: rest' => .ok (.array [], rest')
        | _ => (readItems (depth - 1) rest fuel).map fun r => (.array r.1, r.2)
    | '\x7b' :: rest =>
      if depth = 0 then .error .invalid
      else match skip rest with
        | '\x7d' :: rest' => .ok (.object [], rest')
        | _ => (readFields (depth - 1) rest fuel).map fun r => (.ofFields r.1, r.2)
    | c :: rest =>
      if c = 't' then readWord (.bool true) ['r', 'u', 'e'] rest
      else if c = 'f' then readWord (.bool false) ['a', 'l', 's', 'e'] rest
      else if c = 'n' then readWord .null ['u', 'l', 'l'] rest
      else (readNumber (c :: rest)).map fun r => (.number r.1, r.2)

/-- The items of an array up to its closing bracket. -/
def readItems (depth : Nat) (cs : List Char) : Nat → Part (List Json)
  | 0 => .error .invalid
  | fuel + 1 =>
    match readValue depth cs fuel with
    | .error fault => .error fault
    | .ok (v, rest) =>
      match skip rest with
      | ',' :: rest' => (readItems depth rest' fuel).map fun r => (v :: r.1, r.2)
      | ']' :: rest' => .ok ([v], rest')
      | other => stop other

/-- The fields of an object up to its closing brace. -/
def readFields (depth : Nat) (cs : List Char) : Nat → Part (List (String × Json))
  | 0 => .error .invalid
  | fuel + 1 =>
    match skip cs with
    | '"' :: rest =>
      match readString rest with
      | .error fault => .error fault
      | .ok (name, rest) =>
        match skip rest with
        | ':' :: rest =>
          match readValue depth rest fuel with
          | .error fault => .error fault
          | .ok (v, rest) =>
            match skip rest with
            | ',' :: rest' =>
              (readFields depth rest' fuel).map fun r => ((String.ofList name, v) :: r.1, r.2)
            | '\x7d' :: rest' => .ok ([(String.ofList name, v)], rest')
            | other => stop other
        | other => stop other
    | other => stop other

end

end Reader

/-- The deepest nesting of arrays and objects that is read. -/
def maxDepth : Nat := 127

/-- The value a text denotes, or why it is no document. -/
def read (text : String) : Except Reader.Fault Json :=
  let cs := text.toList
  match Reader.readValue maxDepth cs (2 * cs.length + 2) with
  | .ok (v, rest) => if (Reader.skip rest).isEmpty then .ok v else .error .invalid
  | .error fault => .error fault

/-- The value a text denotes, or nothing if the text is not one JSON document. -/
def read? (text : String) : Option Json :=
  (read text).toOption

end Json

end ClusterFleet
