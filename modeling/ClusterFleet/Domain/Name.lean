import ClusterFleet.Domain.Direction
import ClusterFleet.Domain.Folding
import ClusterFleet.Domain.Joining
import ClusterFleet.Domain.Punycode

/-!
# Domain names — internationalized names

A name consists of labels with points between them. It is folded and composed first; labels that are
encoded in ASCII are decoded and must hold what folding and composing would leave as it is. Of the
result, every label must be well formed, and together they must agree on the direction of writing.
-/

namespace ClusterFleet

namespace Domain

/-- Whether a character of ASCII is forbidden in the name of a host: blanks, control characters, and
all that means something else in an address. -/
def isDenied (c : Char) : Bool :=
  c.toNat ≤ 0x20 || c = '\x7f' || "%#/:<>?@[\\]^|".contains c

/-- What an encoded label begins with. -/
def encodedMark : List Char := "xn--".toList

/-- The greatest length of an encoded label, without its mark. -/
def maxEncoded : Nat := 2000

/-- The greatest length of a label that has to be encoded. -/
def maxDecoded : Nat := 1000

/-- Whether a text is of ASCII. -/
def isAscii (cs : List Char) : Bool :=
  cs.all Punycode.isBasic

/-- Whether a text could be a label in its own right, as folding and composing leave it. -/
def isSettled (label : List Char) : Bool :=
  label.all isPermitted && composed label = label && !encodedMark.isPrefixOf label

/-- The label that an encoded one stands for. It must have a character beyond ASCII, so the text must
not end with the hyphen before the numbers. -/
def decodeLabel? (encoded : List Char) : Option (List Char) :=
  if maxEncoded < encoded.length || !isAscii encoded || encoded.getLast?.all (· = '-') then none
  else (Punycode.decode? encoded).filter isSettled

/-- The label that a text stands for, encoded or not. -/
def label? (cs : List Char) : Option (List Char) :=
  if encodedMark.isPrefixOf cs then decodeLabel? (cs.drop encodedMark.length)
  else if !isAscii cs && maxDecoded < cs.length then none
  else some cs

/-- Whether a label, taken alone, is well formed. -/
def isLabel (label : List Char) : Bool :=
  !label.head?.any isMark && joinersFit [] label

/-- The labels of a name; none for a text that is no name. -/
def labels? (cs : List Char) : Option (List (List Char)) := do
  let text := composed (← fold? cs)
  if text.any isDenied then none
  let labels ← (Text.splitAt '.' text).mapM label?
  if labels.all isLabel && (!runsRight labels.flatten || labels.all isOneWay) then
    return labels
  else none

end Domain

end ClusterFleet
