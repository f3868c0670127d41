import ClusterFleet.Domain.Mark

/-!
# Domain names — direction of writing

Some scripts run from right to left. In a name that has characters of such a script every label must
run in one direction, so that the labels do not change places when the name is shown.
-/

namespace ClusterFleet

namespace Domain

/-- How a character takes part in the direction of a text. -/
inductive Direction where
  /-- Runs from left to right. -/
  | left
  /-- Runs from right to left. -/
  | right
  /-- Runs from right to left, in the manner of Arabic letters. -/
  | arabic
  /-- A digit of a number that runs from left to right wherever it stands. -/
  | digit
  /-- A digit of a number in the manner of Arabic ones. -/
  | arabicDigit
  /-- Anything that takes the direction of what is around it, such as punctuation and marks. -/
  | weak
  deriving DecidableEq, Repr

/-- The characters that run from right to left, ascending. -/
def rightRanges : Text.Ranges :=
  Text.Ranges.ofLines
  ["5be-5f4 7c0-7f5 7fa-85e 10800-1091b 10920-10b35 10b40-10cff 10d40-10d8f 10e80-10eb1",
   "10f00-10f27 10f70-10ff6 1e800-1e95f"]

/-- The characters that run from right to left in the manner of Arabic letters, ascending. -/
def arabicRanges : Text.Ranges :=
  Text.Ranges.ofLines
  ["608 60b 60d 61b-64a 66d-6d5 6e5-6e6 6ee-6ef 6fa-7b1 860-8c9 fbb2-fbd2 fd90-fdce fe73",
   "10d00-10d23 10ec2-10ed8 10f30-10f59 1ec71-1ed3d"]

/-- The digits of numbers that run from left to right, ascending. -/
def digitRanges : Text.Ranges :=
  Text.Ranges.ofLines ["30-39 6f0-6f9 102e1-102fb"]

/-- The digits of numbers in the manner of Arabic ones, ascending. -/
def arabicDigitRanges : Text.Ranges :=
  Text.Ranges.ofLines ["660-669 66b-66c 10d30-10d39 10e60-10e7e"]

/-- The characters other than marks that take the direction of what is around them: signs within
numbers and around them, joiners, and neutral characters. -/
def weakRanges : Text.Ranges :=
  Text.Ranges.ofLines
  ["21-2f 3a-60 7b-d7 f7 2b9-2ba 2c2-2cf 2d2-2ed 2ef-2ff 375 3f6 58a-58f 606-607 609-60a 60c",
   "60e-60f 66a 6de 6e9 7f6-7f9 9f2-9f3 9fb af1 bf3-bfa c78-c7e e3f f3a-f3d 1390-1399 1400",
   "169b-169c 17db 17f0-180a 1940-1945 19de-19ff 200c-214d 218a-2335 237b-2394 2396-2426",
   "2440-26ab 26ad-27ff 2900-2b95 2b97-2bff 2ce5-2cea 2cf9-2cff 2e00-3004 3008-3020 3030",
   "3037 303d-303f 30a0 30fb 31c0-31e3 4dc0-4dff a490-a4c6 a60d-a60f a673-a67f a700-a721",
   "a788 a828-a82b a838-a839 a874-a877 ab6a-ab6b fd3e-fd4f fdcf-fe46 10101 10140-1018c",
   "10190-101a0 1091f 10b39-10b3f 11052-11065 11660-1166c 11fd5-11ff1 16fe2 1d1e9-1d245",
   "1d300-1d356 1e2ff 1eef0-1f12f 1f16d-1f16f 1f1ad 1f260-1f6d7 1f6dc-1f776 1f77b-1f8b1",
   "1f900-1fa53 1fa60-1fa88 1fa90-1fabd 1fabf-1fac5 1face-1fadb 1fae0-1fae8 1faf0-1fbca"]

/-- The marks that run from left to right on their own. -/
def leftMarks : Text.Ranges :=
  Text.Ranges.ofLines ["cbf cc6 11a07-11a08 11c3f"]

/-- Whether a character hangs on the one before it, whatever its direction. -/
def isHanging (c : Char) : Bool :=
  isNonspacing c && !leftMarks.contains c.toNat

/-- The direction of a character. -/
def direction (c : Char) : Direction :=
  let n := c.toNat
  if isHanging c then .weak
  else if rightRanges.contains n then .right
  else if arabicRanges.contains n then .arabic
  else if digitRanges.contains n then .digit
  else if arabicDigitRanges.contains n then .arabicDigit
  else if weakRanges.contains n then .weak
  else .left

/-- Whether a name with this text has to mind its direction. -/
def runsRight (cs : List Char) : Bool :=
  cs.any fun c => direction c = .right || direction c = .arabic || direction c = .arabicDigit

/-- The directions of the characters of a label, without the marks that hang on its end. -/
def directions (label : List Char) : List Direction :=
  ((label.reverse.dropWhile isHanging).reverse).map direction

/-- Whether a label runs from left to right only. -/
def isLeftLabel (ds : List Direction) : Bool :=
  ds.head? = some .left &&
    ds.all (fun d => d = .left || d = .digit || d = .weak) &&
    ds.getLast?.any fun d => d = .left || d = .digit

/-- Whether a label runs from right to left only, with numbers of one manner. -/
def isRightLabel (ds : List Direction) : Bool :=
  ds.head?.any (fun d => d = .right || d = .arabic) &&
    ds.all (· ≠ .left) &&
    ds.getLast?.any (· ≠ .weak) &&
    !(ds.contains .digit && ds.contains .arabicDigit)

/-- Whether a label, empty or not, runs in one direction. -/
def isOneWay (label : List Char) : Bool :=
  label.isEmpty ||
    let ds := directions label
    isLeftLabel ds || isRightLabel ds

end Domain

end ClusterFleet
