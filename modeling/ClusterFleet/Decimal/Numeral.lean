/-!
# Decimal — numerals

Natural numbers as decimal digits: the shortest numeral, the numeral of a fixed width, and the
value of a run of digits.
-/

namespace ClusterFleet

namespace Decimal

/-- The digit character of a value below ten. -/
def digit (d : Nat) : Char :=
  Char.ofNat (48 + d % 10)

/-- Whether a character is one of the ten ASCII digits. -/
def isDigit (c : Char) : Bool :=
  48 ≤ c.toNat && c.toNat ≤ 57

/-- The value of a digit character. -/
def digitValue (c : Char) : Nat :=
  c.toNat - 48

/-- The numeral of a number, without leading zeros. -/
def numeral (n : Nat) : List Char :=
  if n < 10 then [digit n] else numeral (n / 10) ++ [digit n]
termination_by n
decreasing_by omega

/-- The last `width` digits of a number, zeros in front. -/
def fixedWidth : Nat → Nat → List Char
  | 0, _ => []
  | width + 1, n => fixedWidth width (n / 10) ++ [digit n]

/-- The numeral of a number, with zeros in front up to the given width. -/
def padded (width n : Nat) : List Char :=
  let ds := numeral n
  List.replicate (width - ds.length) '0' ++ ds

/-- The value of a run of digits, read after a leading part of value `acc`. -/
def valueFrom (acc : Nat) : List Char → Nat
  | [] => acc
  | c :: cs => valueFrom (acc * 10 + digitValue c) cs

/-- The value of a run of digits. -/
def value (cs : List Char) : Nat :=
  valueFrom 0 cs

/-- A non-empty run of digits, and nothing else. -/
def isNumeral (cs : List Char) : Bool :=
  !cs.isEmpty && cs.all isDigit

/-- The number a text denotes: an optional plus sign, then one or more digits, the value at most
`bound`. No other form is a number. -/
def readBounded (bound : Nat) (cs : List Char) : Option Nat :=
  let ds := match cs with
    | '+' :: r => r
    | _ => cs
  if isNumeral ds && value ds ≤ bound then some (value ds) else none

/-- The numeral of a number, as a string. -/
def text (n : Nat) : String :=
  String.ofList (numeral n)

/-- The greatest value of a word of the given number of bits. -/
def maxWord (bits : Nat) : Nat :=
  Nat.pow 2 bits - 1

end Decimal

end ClusterFleet
