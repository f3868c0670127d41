import ClusterFleet.Decimal.Binary
import ClusterFleet.Decimal.Numeral

/-!
# Decimal — texts of doubles

Reading a double from text, and the two texts of one: positional, for messages, and with an
exponent where the positional form would be long, for documents. Both show the fewest digits that
read back.
-/

namespace ClusterFleet

namespace Decimal

/-- The double nearest to `digits * 10 ^ exponent`. Exponents far outside the range of doubles are
settled before any power is taken. -/
def nearestDouble (digits : Nat) (exponent : Int) : Float :=
  let top := (Binary.digitCount digits : Int) + exponent
  if digits = 0 || top < -330 then 0.0
  else if 330 < top then 1.0 / 0.0
  else if 0 ≤ exponent then Float.ofScientific digits false exponent.toNat
  else Float.ofScientific digits true (-exponent).toNat

/-- The value of an exponent part: a sign, then one or more digits. -/
def readExponent (cs : List Char) : Option Int :=
  match cs with
  | '-' :: ds => if isNumeral ds then some (-(value ds : Int)) else none
  | '+' :: ds => if isNumeral ds then some (value ds) else none
  | ds => if isNumeral ds then some (value ds) else none

/-- A decimal number without sign: digits with an optional point, at least one digit in all, and an
optional exponent. -/
def readUnsignedDouble (cs : List Char) : Option Float :=
  let whole := cs.takeWhile isDigit
  let rest := cs.dropWhile isDigit
  let (fraction, rest) := match rest with
    | '.' :: r => (r.takeWhile isDigit, r.dropWhile isDigit)
    | _ => ([], rest)
  if whole.isEmpty && fraction.isEmpty then none
  else
    let digits := value (whole ++ fraction)
    let shift : Int := -(fraction.length : Int)
    match rest with
    | [] => some (nearestDouble digits shift)
    | c :: r =>
      if c = 'e' || c = 'E' then
        (readExponent r).map fun e => nearestDouble digits (shift + e)
      else none

/-- A double from its text: an optional sign, then a decimal number or one of the words `inf`,
`infinity` and `nan` in any case. -/
def readDouble (cs : List Char) : Option Float :=
  let (negative, body) := match cs with
    | '-' :: r => (true, r)
    | '+' :: r => (false, r)
    | _ => (false, cs)
  let word := String.ofList (body.map Char.toLower)
  let magnitude :=
    if word = "inf" || word = "infinity" then some (1.0 / 0.0)
    else if word = "nan" then some (0.0 / 0.0)
    else readUnsignedDouble body
  magnitude.map fun x => if negative then -x else x

/-- The digits `d * 10 ^ j` written without an exponent. -/
def positional (d : Nat) (j : Int) : List Char :=
  let ds := numeral d
  if 0 ≤ j then ds ++ List.replicate j.toNat '0'
  else
    let places := (-j).toNat
    let ds := List.replicate (places + 1 - ds.length) '0' ++ ds
    ds.take (ds.length - places) ++ '.' :: ds.drop (ds.length - places)

/-- The sign of a double, and the fewest digits that read back to it. -/
def signedShortest? (x : Float) : Option (List Char × Nat × Int) :=
  (Binary.ofFloat? x).map fun b =>
    let r := b.shortest
    (if Binary.isNegative x then ['-'] else [], strip r.1 r.2 20)
where
  /-- The same decimal without trailing zeros among its digits. -/
  strip (d : Nat) (j : Int) : Nat → Nat × Int
    | 0 => (d, j)
    | fuel + 1 => if d ≠ 0 && d % 10 = 0 then strip (d / 10) (j + 1) fuel else (d, j)

/-- A double as messages show it: positional however long, always with a point. -/
def messageText (x : Float) : String :=
  match signedShortest? x with
  | none => if x.isNaN then "NaN" else if x < 0.0 then "-inf" else "inf"
  | some (sign, d, j) =>
    let body := positional d j
    String.ofList (sign ++ body ++ (if body.contains '.' then [] else ['.', '0']))

/-- A finite double as documents show it: positional while the point stands at most sixteen digits
after the first one or at most five places before it, otherwise with an exponent. -/
def documentText (x : Float) : String :=
  match signedShortest? x with
  | none => "null"
  | some (sign, d, j) =>
    let ds := numeral d
    let point : Int := ds.length + j
    let body :=
      if d = 0 then ['0', '.', '0']
      else if 0 ≤ j && point ≤ 16 then positional d j ++ ['.', '0']
      else if -5 < point && point ≤ 16 then positional d j
      else
        let e := point - 1
        let exponent := (if e < 0 then ['-'] else []) ++ numeral e.natAbs
        match ds with
        | [] => []
        | [c] => c :: 'e' :: exponent
        | c :: r => c :: '.' :: r ++ 'e' :: exponent
    String.ofList (sign ++ body)

/-- The sixteen hexadecimal digits of a double's bits. -/
def bitsText (x : Float) : String :=
  let hex (d : Nat) : Char := if d < 10 then Char.ofNat (48 + d) else Char.ofNat (87 + d)
  let bits := x.toBits.toNat
  String.ofList ('0' :: 'x' :: (List.range 16).map fun i => hex (bits / Nat.pow 16 (15 - i) % 16))

end Decimal

end ClusterFleet
