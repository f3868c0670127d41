import ClusterFleet.Decimal.Numeral
import ClusterFleet.Text.Ranges

/-!
# URL — numeric hosts

A host whose last part is a number is an address of 32 bits, or nothing. There are one to four parts;
the last one fills all the bytes that the parts before it leave. Numbers may be written with base
ten, with base eight after a zero, or with base sixteen after `0x`.
-/

namespace ClusterFleet

namespace Url

namespace Ipv4

/-- A number in a base that does not exceed sixteen, if all its digits are below the base. -/
def number? (base : Nat) (cs : List Char) : Option Nat :=
  cs.foldlM (fun n c => ((Text.hexValue? c).filter (· < base)).map (n * base + ·)) 0

/-- The number that a part is. No digits after `0x` are zero. -/
def part? : List Char → Option Nat
  | [] => none
  | '0' :: 'x' :: digits => number? 16 digits
  | '0' :: 'X' :: digits => number? 16 digits
  | '0' :: c :: digits => number? 8 (c :: digits)
  | digits => number? 10 digits

/-- The parts of a host; an empty part at the end does not count. -/
def parts (labels : List (List Char)) : List (List Char) :=
  if labels.getLast? = some [] then labels.dropLast else labels

/-- Whether a host ends in a number, be it one that no address can have. -/
def endsInNumber (labels : List (List Char)) : Bool :=
  (parts labels).getLast?.any fun last =>
    Decimal.isNumeral last || (part? last).isSome

/-- Whether numbers make an address. -/
def fits (numbers : List Nat) : Bool :=
  match numbers.getLast? with
  | none => false
  | some last =>
    numbers.length ≤ 4 && numbers.dropLast.all (· ≤ 255) && last < Nat.pow 256 (5 - numbers.length)

/-- Whether a host is an address. -/
def isAddress (labels : List (List Char)) : Bool :=
  ((parts labels).mapM part?).any fits

end Ipv4

end Url

end ClusterFleet
