/-!
# Decimal — binary fractions

A finite double as an exact product `m * 2 ^ q`, and exact comparison and rounding of such
products against powers of ten. Everything here is arithmetic on natural numbers.
-/

namespace ClusterFleet

namespace Decimal

/-- A non-negative binary fraction, `mantissa * 2 ^ exponent`. -/
structure Binary where
  /-- The integer factor. -/
  mantissa : Nat
  /-- The power of two. -/
  exponent : Int
  /-- Whether the gap to the neighbour below is half the gap to the neighbour above. -/
  narrowBelow : Bool
  deriving Repr, DecidableEq

namespace Binary

/-- The magnitude of a double, or nothing for an infinity or a value that is no number. -/
def ofFloat? (x : Float) : Option Binary :=
  let bits : Nat := x.toBits.toNat
  let field : Nat := bits / Nat.pow 2 52 % Nat.pow 2 11
  let fraction : Nat := bits % Nat.pow 2 52
  if field = 2047 then none
  else if field = 0 then some ⟨fraction, -1074, false⟩
  else some ⟨Nat.pow 2 52 + fraction, (field : Int) - 1075, fraction = 0 && field > 1⟩

/-- Whether a double has its sign bit set. -/
def isNegative (x : Float) : Bool :=
  x.toBits.toNat / Nat.pow 2 63 = 1

/-- The numerator and the denominator of `b * 2 ^ q / 10 ^ j`. -/
def quotient (b : Nat) (q j : Int) : Nat × Nat :=
  (b * Nat.pow 2 q.toNat * Nat.pow 10 (-j).toNat, Nat.pow 2 (-q).toNat * Nat.pow 10 j.toNat)

/-- A quotient rounded to the nearest integer, a tie to the even one. -/
def roundHalfEven (num den : Nat) : Nat :=
  let whole := num / den
  let twice := 2 * (num % den)
  if twice < den then whole
  else if den < twice then whole + 1
  else if whole % 2 = 0 then whole else whole + 1

/-- A binary fraction times a natural number, rounded to the nearest integer, ties to even. -/
def scaleRounded (x : Binary) (factor : Nat) : Nat :=
  let r := quotient (x.mantissa * factor) x.exponent 0
  roundHalfEven r.1 r.2

/-- Whether `d * 10 ^ j` rounds to the binary fraction: it lies between the midpoints to the two
neighbours, the midpoints themselves included when the mantissa is even. -/
def readsBack (x : Binary) (d : Nat) (j : Int) : Bool :=
  let below := 4 * x.mantissa - (if x.narrowBelow then 1 else 2)
  let above := 4 * x.mantissa + 2
  let lo := quotient below (x.exponent - 2) j
  let hi := quotient above (x.exponent - 2) j
  if x.mantissa % 2 = 0 then lo.1 ≤ d * lo.2 && d * hi.2 ≤ hi.1
  else lo.1 < d * lo.2 && d * hi.2 < hi.1

/-- The multiple of `10 ^ j` that reads back to the fraction, the nearer of its two neighbours on
that grid, if either does. -/
def onGrid (x : Binary) (j : Int) : Option Nat :=
  let r := quotient x.mantissa x.exponent j
  let lower := r.1 / r.2
  let upper := lower + 1
  match readsBack x lower j, readsBack x upper j with
  | true, true => if 2 * (r.1 % r.2) < r.2 || (2 * (r.1 % r.2) = r.2 && lower % 2 = 0)
      then some lower else some upper
  | true, false => some lower
  | false, true => some upper
  | false, false => none

/-- The number of decimal digits of a natural number's numeral. -/
def digitCount (n : Nat) : Nat :=
  if n < 10 then 1 else digitCount (n / 10) + 1
termination_by n
decreasing_by omega

/-- The least `k` with the fraction below `10 ^ k`, for a fraction that is not zero. -/
def magnitude (x : Binary) : Int :=
  let r := quotient x.mantissa x.exponent 0
  if r.2 ≤ r.1 then digitCount (r.1 / r.2)
  else
    -- a proper fraction: count how often it can be multiplied by ten without reaching one
    let t := (r.2 - 1) / r.1
    1 - (digitCount t : Int)

/-- The first grid among `10 ^ j, 10 ^ (j - 1), ...` with a multiple that reads back. -/
def searchGrids (x : Binary) (j : Int) : Nat → Nat × Int
  | 0 =>
    let r := quotient x.mantissa x.exponent j
    (r.1 / r.2, j)
  | fuel + 1 =>
    match onGrid x j with
    | some d => (d, j)
    | none => searchGrids x (j - 1) fuel

/-- The decimal `d * 10 ^ j` of fewest digits that reads back to the fraction, and among those the
nearest. Zero is `0 * 10 ^ 0`. -/
def shortest (x : Binary) : Nat × Int :=
  if x.mantissa = 0 then (0, 0) else searchGrids x (magnitude x) 20

end Binary

end Decimal

end ClusterFleet
