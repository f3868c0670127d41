import ClusterFleet.Decimal.Numeral

/-!
# Text — base 64

When a text is the base 64 form of some bytes, and what is wrong with it if it is not. The form is
the strict one: padded to a multiple of four bytes, padding only at the end, and no bits left over.
Only whether a text has the form matters here, so the bytes it stands for are not computed.
-/

namespace ClusterFleet

namespace Base64

/-- What is wrong with a text that is no base 64 form. -/
inductive Fault where
  /-- A byte that cannot stand at this offset. -/
  | byte (value offset : Nat)
  /-- One byte too many for any number of whole bytes. -/
  | length
  /-- The last symbol holds bits that belong to no byte. -/
  | lastSymbol (value offset : Nat)
  /-- Too little padding. -/
  | padding
  deriving DecidableEq, Repr

/-- The wording of a fault. -/
def Fault.message : Fault → String
  | .byte value offset =>
    "Invalid byte " ++ Decimal.text value ++ ", offset " ++ Decimal.text offset ++ "."
  | .length => "Encoded text cannot have a 6-bit remainder."
  | .lastSymbol value offset =>
    "Invalid last symbol " ++ Decimal.text value ++ ", offset " ++ Decimal.text offset ++ "."
  | .padding => "Invalid padding"

/-- The padding byte. -/
def pad : Nat := 61

/-- The value of a symbol, below 64. -/
def symbol? (b : Nat) : Option Nat :=
  if 65 ≤ b ∧ b ≤ 90 then some (b - 65)
  else if 97 ≤ b ∧ b ≤ 122 then some (b - 97 + 26)
  else if 48 ≤ b ∧ b ≤ 57 then some (b - 48 + 52)
  else if b = 43 then some 62
  else if b = 47 then some 63
  else none

/-- How far a text has been read. -/
structure Progress where
  /-- The number of symbols. -/
  symbols : Nat
  /-- The last symbol. -/
  last : Nat
  /-- The number of padding bytes, which follow the symbols. -/
  pads : Nat

/-- Reads one more byte. Padding may begin only in the second half of a group of four, and is
followed by nothing else; a byte that breaks this is blamed on the first padding byte. -/
def step (p : Progress) (b : Nat) : Except Fault Progress :=
  let offset := p.symbols + p.pads
  if b = pad then
    if offset % 4 < 2 then .error (.byte b p.symbols)
    else .ok { p with pads := p.pads + 1 }
  else if p.pads ≠ 0 then .error (.byte pad p.symbols)
  else match symbol? b with
    | none => .error (.byte b offset)
    | some _ => .ok { p with symbols := p.symbols + 1, last := b }

/-- The bits of the last symbol that belong to no byte: the lower four if the last group has two
symbols, the lower two if it has three. -/
def spareBits (p : Progress) : Nat :=
  let bits := (symbol? p.last).getD 0
  if p.symbols % 4 = 2 then bits % 16
  else if p.symbols % 4 = 3 then bits % 4
  else 0

/-- What is wrong with the bytes of a text, if anything. -/
def fault? (bytes : List Nat) : Option Fault :=
  if bytes.length % 4 = 1 then
    match bytes.getLast? with
    | some b =>
      if b ≠ pad ∧ (symbol? b).isNone then some (.byte b (bytes.length - 1)) else some .length
    | none => some .length
  else
    match bytes.foldlM step ⟨0, 0, 0⟩ with
    | .error fault => some fault
    | .ok p =>
      if (p.symbols + p.pads) % 4 ≠ 0 then some .padding
      else if spareBits p ≠ 0 then some (.lastSymbol p.last (p.symbols - 1))
      else none

/-- What is wrong with a text, if anything. -/
def textFault? (text : String) : Option Fault :=
  fault? (text.toUTF8.toList.map UInt8.toNat)

/-- Whole groups of symbols, and padded ones without spare bits, have the form. -/
example : [textFault? "", textFault? "YWJj", textFault? "YWI=", textFault? "YQ=="] =
    [none, none, none, none] := by decide +kernel

/-- The faults name what was found and where. -/
example : [textFault? "YQ", textFault? "YR==", textFault? "Y===", textFault? "YW=j", textFault? "Y"] =
    [some .padding, some (.lastSymbol 82 1), some (.byte 61 1), some (.byte 61 2), some .length] := by
  decide +kernel

end Base64

end ClusterFleet
