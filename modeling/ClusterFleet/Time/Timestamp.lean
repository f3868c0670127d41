import ClusterFleet.Decimal.Numeral
import ClusterFleet.Text.Blank
import ClusterFleet.Time.Instant

/-!
# Time — timestamps

The text of an instant. It is written in universal time with the fewest of 0, 3, 6 or 9 digits
after the point that keep the value. It is read in a wider form: blanks may stand before each
part, numbers may be short, the zone may be an offset, and second 60 denotes a leap second.
-/

namespace ClusterFleet

namespace Timestamp

open Decimal

/-- Why a text is no timestamp. -/
inductive Fault where
  /-- The text ends where more is needed. -/
  | tooShort
  /-- A character that cannot stand where it does. -/
  | invalid
  /-- A number beyond its range, or a date that the calendar does not have. -/
  | outOfRange
  /-- More text after the timestamp. -/
  | trailing
  /-- The instant falls off the calendar when it is taken to universal time. -/
  | noInstant
  deriving DecidableEq, Repr

/-- The wording of a fault. -/
def Fault.message : Fault → String
  | .tooShort => "premature end of input"
  | .invalid => "input contains invalid characters"
  | .outOfRange => "input is out of range"
  | .trailing => "trailing input"
  | .noInstant => "no possible date and time matching input"

/-! ## Writing -/

/-- The digits after the point: none, or a group of three, six or nine. -/
def fractionText (nanos : Nat) : List Char :=
  if nanos = 0 then []
  else if nanos % 1000000 = 0 then '.' :: fixedWidth 3 (nanos / 1000000)
  else if nanos % 1000 = 0 then '.' :: fixedWidth 6 (nanos / 1000)
  else '.' :: fixedWidth 9 nanos

/-- The year: four digits, or outside 0 to 9999 a sign and at least four digits. -/
def yearText (year : Int) : List Char :=
  if 0 ≤ year ∧ year ≤ 9999 then fixedWidth 4 year.toNat
  else (if year < 0 then '-' else '+') :: padded 4 year.natAbs

/-- The date, a `T` and the time of day up to the minute. -/
def minuteText (date : Date) (second : Nat) : List Char :=
  yearText date.year ++ '-' :: fixedWidth 2 date.month ++ '-' :: fixedWidth 2 date.day ++
    'T' :: fixedWidth 2 (second / 3600) ++ ':' :: fixedWidth 2 (second / 60 % 60)

/-- The timestamp of an instant. -/
def write (t : Instant) : String :=
  -- a leap second is second 59 with a second more of nanoseconds
  let leap := nanosPerSecond ≤ t.time.nanos
  let second := t.time.second % 60 + (if leap then 1 else 0)
  let nanos := t.time.nanos % nanosPerSecond
  String.ofList (minuteText t.date t.time.second ++ ':' :: fixedWidth 2 second ++
    fractionText nanos ++ ['Z'])

/-! ## Reading -/

/-- A reader takes a part off the front of a text. -/
abbrev Reader (α : Type) := List Char → Except Fault (α × List Char)

/-- One to `width` digits. -/
def readDigits (width : Nat) : Reader (List Char) := fun cs =>
  match cs with
  | [] => .error .tooShort
  | c :: _ =>
    if isDigit c then
      let ds := (cs.take width).takeWhile isDigit
      .ok (ds, cs.drop ds.length)
    else .error .invalid

/-- A number of one or two digits between two bounds, blanks before it. -/
def readPart (lo hi : Nat) : Reader Nat := fun cs => do
  let (ds, rest) ← readDigits 2 (Text.skipBlanks cs)
  if lo ≤ value ds ∧ value ds ≤ hi then return (value ds, rest) else .error .outOfRange

/-- A given character, blanks before it. -/
def readMark (mark : Char) : Reader Unit := fun cs =>
  match Text.skipBlanks cs with
  | [] => .error .tooShort
  | c :: rest => if c = mark then .ok ((), rest) else .error .invalid

/-- The greatest year number that is read at all. -/
def yearLimit : Nat := Nat.pow 2 31

/-- A year: up to four digits, or a sign and any number of digits. -/
def readYear : Reader Int := fun cs => do
  match Text.skipBlanks cs with
  | '-' :: r =>
    let (ds, rest) ← readDigits r.length r
    if value ds ≤ yearLimit then return (-(value ds : Int), rest) else .error .outOfRange
  | '+' :: r =>
    let (ds, rest) ← readDigits r.length r
    if value ds < yearLimit then return ((value ds : Int), rest) else .error .outOfRange
  | r =>
    let (ds, rest) ← readDigits 4 r
    return ((value ds : Int), rest)

/-- The digits after a point, in nanoseconds; digits after the ninth count for nothing. -/
def readFraction : Reader Nat := fun cs =>
  match cs with
  | '.' :: r => do
    let (ds, rest) ← readDigits 9 r
    return (value ds * Nat.pow 10 (9 - ds.length), rest.dropWhile isDigit)
  | _ => .ok (0, cs)

/-- Two digits that must both be there. A text of a single one-byte character is too short. -/
def readPair : Reader (Char × Char) := fun cs =>
  match cs with
  | [] => .error .tooShort
  | [c] => if c.toNat < 128 then .error .tooShort else .error .invalid
  | a :: b :: rest => .ok ((a, b), rest)

/-- The minutes of an offset. -/
def readOffsetMinutes : Reader Nat := fun cs => do
  let ((a, b), rest) ← readPair cs
  if isDigit a && isDigit b then
    if digitValue a ≤ 5 then return (digitValue a * 10 + digitValue b, rest)
    else .error .outOfRange
  else .error .invalid

/-- The colons and blanks between the hours and the minutes of an offset. -/
def skipColons (cs : List Char) : List Char :=
  cs.dropWhile fun c => c = ':' || Text.isBlank c

/-- The seconds of an offset after its sign. -/
def readOffset (negative : Bool) : Reader Int := fun cs => do
  let ((a, b), rest) ← readPair cs
  if isDigit a && isDigit b then
    let hours := digitValue a * 10 + digitValue b
    let (minutes, rest) ← readOffsetMinutes (skipColons rest)
    let seconds : Int := hours * 3600 + minutes * 60
    return (if negative then -seconds else seconds, rest)
  else .error .invalid

/-- A zone: `Z`, `UTC` in any case, or an offset from universal time, in seconds. -/
def readZone : Reader Int := fun cs =>
  match Text.skipBlanks cs with
  | [] => .error .tooShort
  | c :: rest =>
    if c = 'Z' || c = 'z' then .ok (0, rest)
    else if String.ofList (((c :: rest).take 3).map Char.toLower) = "utc" then
      .ok (0, (c :: rest).drop 3)
    else if c = '+' then readOffset false rest
    else if c = '-' || c = '−' then readOffset true rest
    else .error .invalid

/-- The character between date and time. -/
def readSeparator : Reader Unit := fun cs =>
  match cs with
  | [] => .error .tooShort
  | c :: rest => if c = 'T' || c = 't' || c = ' ' then .ok ((), rest) else .error .invalid

/-- The parts of a timestamp: date, time of day by hour, minute, second and nanoseconds, and
offset. -/
structure Parts where
  /-- The local date. -/
  date : Date
  /-- The hour. -/
  hour : Nat
  /-- The minute. -/
  minute : Nat
  /-- The second, 60 for a leap second. -/
  second : Nat
  /-- The nanoseconds. -/
  nanos : Nat
  /-- The offset from universal time in seconds. -/
  offset : Int

/-- The parts of a text that holds one timestamp and nothing else but blanks. -/
def readParts (cs : List Char) : Except Fault Parts := do
  let (year, cs) ← readYear cs
  let (_, cs) ← readMark '-' cs
  let (month, cs) ← readPart 1 12 cs
  let (_, cs) ← readMark '-' cs
  let (day, cs) ← readPart 1 31 cs
  let (_, cs) ← readSeparator cs
  let (hour, cs) ← readPart 0 23 cs
  let (_, cs) ← readMark ':' cs
  let (minute, cs) ← readPart 0 59 cs
  let (_, cs) ← readMark ':' cs
  let (second, cs) ← readPart 0 60 cs
  let (nanos, cs) ← readFraction cs
  let (offset, cs) ← readZone cs
  if (Text.skipBlanks cs).isEmpty then
    return ⟨⟨year, month, day⟩, hour, minute, second, nanos, offset⟩
  else .error .trailing

/-- The instant that the parts denote: the local time less the offset, which moves the date by at
most one day. -/
def Parts.instant (p : Parts) : Except Fault Instant :=
  if ¬ p.date.IsValid then .error .outOfRange
  else if 86400 ≤ p.offset.natAbs then .error .outOfRange
  else
    let leap := p.second = 60
    let second := if leap then 59 else p.second
    let nanos := if leap then p.nanos + nanosPerSecond else p.nanos
    let moved : Int := ((p.hour * 60 + p.minute) * 60 + second : Nat) - p.offset
    let (date, second) :=
      if moved < 0 then (p.date.previous, moved + secondsPerDay)
      else if (secondsPerDay : Int) ≤ moved then (p.date.next, moved - secondsPerDay)
      else (p.date, moved)
    match Instant.of? date ⟨second.toNat, nanos⟩ with
    | some t => .ok t
    | none => .error .noInstant

/-- The instant a text denotes. -/
def read (text : String) : Except Fault Instant := do
  let parts ← readParts text.toList
  parts.instant

end Timestamp

end ClusterFleet
