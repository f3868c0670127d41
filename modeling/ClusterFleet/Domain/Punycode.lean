import ClusterFleet.Decimal.Numeral

/-!
# Domain names — characters beyond ASCII in ASCII

A label with characters beyond ASCII is written with its ASCII characters first and then, after a
hyphen, numbers that say which other characters to put in and where. Each number is written with
digits of thirty-six values, the lowest digit first, and where it ends shows from its last digit
being small; how small changes with the numbers read so far.
-/

namespace ClusterFleet

namespace Domain

namespace Punycode

/-- The number of values of a digit. -/
def radix : Nat := 36

/-- The value of a digit: letters first. -/
def digitValue? (c : Char) : Option Nat :=
  let n := c.toNat
  if 97 ≤ n && n ≤ 122 then some (n - 97)
  else if 65 ≤ n && n ≤ 90 then some (n - 65)
  else if 48 ≤ n && n ≤ 57 then some (n - 22)
  else none

/-- The value under which the digit at a position is the last one of its number. -/
def threshold (position bias : Nat) : Nat :=
  if position ≤ bias then 1 else if bias + 26 ≤ position then 26 else position - bias

/-- The greatest number. -/
def limit : Nat := Decimal.maxWord 32

/-- A number from its digits, added to one read before, and the text after it. -/
def readNumber (bias position weight sum : Nat) : List Char → Option (Nat × List Char)
  | [] => none
  | c :: rest =>
    match digitValue? c with
    | none => none
    | some d =>
      let sum := sum + d * weight
      let t := threshold position bias
      let heavier := weight * (radix - t)
      if limit < sum then none
      else if d < t then some (sum, rest)
      else if limit < heavier then none
      else readNumber bias (position + radix) heavier sum rest

/-- A number takes at least one digit. -/
theorem length_of_readNumber {bias position weight sum n : Nat} {cs rest : List Char}
    (h : readNumber bias position weight sum cs = some (n, rest)) : rest.length < cs.length := by
  induction cs generalizing position weight sum with
  | nil => simp [readNumber] at h
  | cons c cs ih =>
    unfold readNumber at h
    split at h
    · cases h
    · dsimp only at h
      split at h
      · cases h
      · split at h
        · cases h
          simp
        · split at h
          · cases h
          · have := ih h
            simp only [List.length_cons]
            omega

/-- How often a difference has to be divided to become small, counted in digits, and what is
left of it. -/
def shrink (difference position : Nat) : Nat × Nat :=
  if 455 < difference then shrink (difference / 35) (position + radix)
  else (difference, position)
termination_by difference
decreasing_by omega

/-- The bias after a number: it follows the size of the difference to the number before. -/
def adapt (difference length : Nat) (isFirst : Bool) : Nat :=
  let d := if isFirst then difference / 700 else difference / 2
  let (rest, position) := shrink (d + d / length) 0
  position + radix * rest / (rest + 38)

/-- Puts a character into a text. -/
def insertAt (i : Nat) (c : Char) (text : List Char) : List Char :=
  text.take i ++ c :: text.drop i

/-- Puts in the characters that numbers tell of. The text, the last character put in, the place after
it and the bias are what has been read so far. -/
def insertAll (text : List Char) (last place bias : Nat) (cs : List Char) : Option (List Char) :=
  if cs.isEmpty then some text
  else
    match _h : readNumber bias radix 1 place cs with
    | none => none
    | some (sum, rest) =>
      let length := text.length + 1
      let code := last + sum / length
      if code.isValidChar then
        insertAll (insertAt (sum % length) (Char.ofNat code) text) code (sum % length + 1)
          (adapt (sum - place) length (place = 0)) rest
      else none
termination_by cs.length
decreasing_by exact length_of_readNumber _h

/-- Whether a character is of ASCII. -/
def isBasic (c : Char) : Bool :=
  c.toNat < 0x80

/-- The text before the last hyphen and the text after it; without a hyphen, or with only one that
begins the text, all of it counts as after. -/
def splitBasic (cs : List Char) : List Char × List Char :=
  let numbers := (cs.reverse.takeWhile (· ≠ '-')).reverse
  let basic := cs.take (cs.length - numbers.length - 1)
  if basic.isEmpty then ([], cs) else (basic, numbers)

/-- The text that a text stands for. -/
def decode? (cs : List Char) : Option (List Char) :=
  let (basic, numbers) := splitBasic cs
  insertAll basic 0x80 0 72 numbers

end Punycode

end Domain

end ClusterFleet
