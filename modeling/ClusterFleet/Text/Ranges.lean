/-!
# Text — sets of code points

A property of characters is a list of closed ranges of code points. Long tables are held as text:
ranges in hexadecimal, separated by spaces, a lone number standing for a range of one.
-/

namespace ClusterFleet

namespace Text

/-- The value of a hexadecimal digit, in either case. -/
def hexValue? (c : Char) : Option Nat :=
  let n := c.toNat
  if 48 ≤ n ∧ n ≤ 57 then some (n - 48)
  else if 97 ≤ n ∧ n ≤ 102 then some (n - 87)
  else if 65 ≤ n ∧ n ≤ 70 then some (n - 55)
  else none

/-- The hexadecimal digit of a value below sixteen, in lower case. -/
def hexDigit (d : Nat) : Char :=
  if d % 16 < 10 then Char.ofNat (48 + d % 16) else Char.ofNat (87 + d % 16)

/-- The hexadecimal numeral of a number, in lower case and without leading zeros. -/
def hexNumeral (n : Nat) : List Char :=
  if n < 16 then [hexDigit n] else hexNumeral (n / 16) ++ [hexDigit n]
termination_by n
decreasing_by omega

/-- The value of the hexadecimal digits of a text; other characters count as zero. -/
def hexValue (cs : List Char) : Nat :=
  cs.foldl (fun acc c => acc * 16 + (hexValue? c).getD 0) 0

/-- The parts of a text between the separators. There is always one more part than there are
separators. -/
def splitAt (separator : Char) : List Char → List (List Char)
  | [] => [[]]
  | c :: cs =>
    match splitAt separator cs with
    | [] => [[c]]
    | part :: parts => if c = separator then [] :: part :: parts else (c :: part) :: parts

/-- A set of code points: closed ranges. -/
structure Ranges where
  /-- The ranges, each with its first and last code point. -/
  spans : Array (Nat × Nat)

namespace Ranges

/-- One range from its text. -/
def spanOfText (cs : List Char) : Nat × Nat :=
  match splitAt '-' cs with
  | [lo, hi] => (hexValue lo, hexValue hi)
  | _ => (hexValue cs, hexValue cs)

/-- The set whose ranges are written on the given lines. -/
def ofLines (lines : List String) : Ranges :=
  ⟨(lines.flatMap fun line => (splitAt ' ' line.toList).map spanOfText).toArray⟩

/-- Whether a code point lies in one of the ranges. -/
def contains (r : Ranges) (n : Nat) : Bool :=
  r.spans.any fun s => s.1 ≤ n && n ≤ s.2

end Ranges

end Text

end ClusterFleet
