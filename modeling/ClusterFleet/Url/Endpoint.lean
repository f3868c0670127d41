import ClusterFleet.Domain.Name
import ClusterFleet.Url.Ipv4
import ClusterFleet.Url.Ipv6

/-!
# URL — endpoints

Whether a text is the URL of an endpoint that speaks HTTPS. Such URLs are read generously: blanks
around them, line breaks within them and slashes of either kind before the host, however many, do not
matter. What follows the host and its port can be anything.
-/

namespace ClusterFleet

namespace Url

/-! ## The parts of a URL -/

/-- Whether a character is a space or a control character below it. -/
def isPadding (c : Char) : Bool :=
  c.toNat ≤ 0x20

/-- Whether a character counts for nothing inside a URL. -/
def isSkipped (c : Char) : Bool :=
  c = '\t' || c = '\n' || c = '\r'

/-- A text without what counts for nothing in a URL. -/
def clean (cs : List Char) : List Char :=
  (((cs.dropWhile isPadding).reverse.dropWhile isPadding).reverse).filter fun c => !isSkipped c

/-- A letter of ASCII in lower case; other characters stay. -/
def lower (c : Char) : Char :=
  if 65 ≤ c.toNat && c.toNat ≤ 90 then Char.ofNat (c.toNat + 32) else c

/-- Whether a character is a slash of either kind. -/
def isSlash (c : Char) : Bool :=
  c = '/' || c = '\\'

/-- Whether a character ends the part of a URL that names the host. -/
def endsAuthority (c : Char) : Bool :=
  isSlash c || c = '?' || c = '#'

/-- The text after the scheme, if the scheme is the one of HTTPS. -/
def afterScheme? (cs : List Char) : Option (List Char) :=
  let scheme := "https:".toList
  if (cs.take scheme.length).map lower = scheme then some (cs.drop scheme.length) else none

/-- The host and its port: without what stands before it and ends with the last at sign. -/
def hostPart (cs : List Char) : List Char :=
  let authority := (cs.dropWhile isSlash).takeWhile fun c => !endsAuthority c
  (authority.reverse.takeWhile (· ≠ '@')).reverse

/-- The host, and the text from the colon before the port on. A colon in square brackets belongs to
the host. -/
def splitPort (inBrackets : Bool) : List Char → List Char × List Char
  | [] => ([], [])
  | c :: rest =>
    if c = ':' && !inBrackets then ([], c :: rest)
    else
      let inBrackets := if c = '[' then true else if c = ']' then false else inBrackets
      let (host, port) := splitPort inBrackets rest
      (c :: host, port)

/-- The greatest port. -/
def maxPort : Nat := Decimal.maxWord 16

/-- Whether a text is a port after its colon, or nothing. A colon may stand without a port. -/
def isPort : List Char → Bool
  | [] => true
  | _ :: digits => digits.all Decimal.isDigit && Decimal.value digits ≤ maxPort

/-! ## Hosts -/

/-- The value of a byte that is a hexadecimal digit. -/
def hexByte? (b : UInt8) : Option Nat :=
  Text.hexValue? (Char.ofNat b.toNat)

/-- The byte that a percent sign and two hexadecimal digits write. -/
def escaped? (sign hi lo : UInt8) : Option UInt8 :=
  if sign = 0x25 then do return Nat.toUInt8 ((← hexByte? hi) * 16 + (← hexByte? lo))
  else none

/-- The bytes of a text in which some are written with a percent sign. -/
def percentDecode : List UInt8 → List UInt8
  | b :: hi :: lo :: rest =>
    match escaped? b hi lo with
    | some byte => byte :: percentDecode rest
    | none => b :: percentDecode (hi :: lo :: rest)
  | rest => rest

/-- The text that a host is written for, if it is one. -/
def hostText? (host : List Char) : Option (List Char) :=
  let bytes := percentDecode (String.ofList host).toUTF8.toList
  (String.fromUTF8? (ByteArray.mk bytes.toArray)).map String.toList

/-- Whether labels name a host: they are not all empty into nothing, and are an address if they look
like one. -/
def namesHost (labels : List (List Char)) : Bool :=
  labels ≠ [[]] && (!Ipv4.endsInNumber labels || Ipv4.isAddress labels)

/-- Whether a text is a host. -/
def isHost (host : List Char) : Bool :=
  match host with
  | [] => false
  | '[' :: rest => rest.getLast? = some ']' && Ipv6.isAddress rest.dropLast
  | _ => ((hostText? host).bind Domain.labels?).any namesHost

/-- Whether a text is the URL of an endpoint that speaks HTTPS. -/
def isSecureEndpoint (url : String) : Bool :=
  match afterScheme? (clean url.toList) with
  | none => false
  | some rest =>
    let (host, port) := splitPort false (hostPart rest)
    isHost host && isPort port

end Url

end ClusterFleet
