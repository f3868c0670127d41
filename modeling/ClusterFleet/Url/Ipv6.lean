import ClusterFleet.Decimal.Numeral
import ClusterFleet.Text.Ranges

/-!
# URL — hosts in square brackets

An address of 128 bits is written as eight groups of up to four hexadecimal digits, between colons.
Two colons in a row stand, once, for any number of groups of zeros; and the last two groups may be
written as four decimal numbers with points between.
-/

namespace ClusterFleet

namespace Url

namespace Ipv6

/-- The number of groups. -/
def groupCount : Nat := 8

/-- Whether a text is a decimal number below 256 without leading zeros. -/
def isByte (cs : List Char) : Bool :=
  Decimal.isNumeral cs && cs.length ≤ 3 &&
    (cs.length = 1 || cs.head? ≠ some '0') &&
    Decimal.value cs ≤ 255

/-- Whether a text is four decimal numbers with points between. -/
def isTail (cs : List Char) : Bool :=
  let bytes := Text.splitAt '.' cs
  bytes.length = 4 && bytes.all isByte

/-- Whether the text of an address is complete with so many groups. -/
def isComplete (groups : Nat) (isShort : Bool) : Bool :=
  isShort || groups = groupCount

/-- The digits of a group. -/
def digits (cs : List Char) : List Char :=
  (cs.take 4).takeWhile fun c => (Text.hexValue? c).isSome

/-- Whether a text goes on with an address after so many groups, with two colons in a row or
without. -/
def goesOn (groups : Nat) (isShort : Bool) (cs : List Char) : Bool :=
  match cs with
  | [] => isComplete groups isShort
  | ':' :: rest =>
    groups < groupCount && !isShort && goesOn (groups + 1) true rest
  | c :: rest =>
    let n := (digits (c :: rest)).length
    groups < groupCount &&
      match _h : (c :: rest).drop n with
      | [] => isComplete (groups + 1) isShort
      | '.' :: _ =>
        n ≠ 0 && groups + 2 ≤ groupCount && isTail (c :: rest) && isComplete (groups + 2) isShort
      | ':' :: more =>
        !more.isEmpty && goesOn (groups + 1) isShort more
      | _ => false
termination_by cs.length
decreasing_by
  · simp
  · have := congrArg List.length _h
    simp only [List.length_drop, List.length_cons] at this ⊢
    omega

/-- Whether a text is an address. Only two colons may begin it. -/
def isAddress : List Char → Bool
  | ':' :: ':' :: rest => goesOn 1 true rest
  | ':' :: _ => false
  | cs => 2 ≤ cs.length && goesOn 0 false cs

end Ipv6

end Url

end ClusterFleet
