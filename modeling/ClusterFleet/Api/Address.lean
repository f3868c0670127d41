import ClusterFleet.Object.Kind

/-!
# API — addresses

Where the API server holds things: the path of a collection, and of one object or one part of an
object in it. Names go into a path as they are, so a path may turn out to be no address at all, or
one of something else than was meant.
-/

namespace ClusterFleet

/-- A collection of objects on the API server. -/
structure Collection where
  /-- The API group, empty for the core group. -/
  group : String
  /-- The version within the group. -/
  version : String
  /-- The name of the collection. -/
  plural : String
  deriving DecidableEq, Repr

/-- The collection of the objects of a kind. -/
def Kind.collection (k : Kind) : Collection :=
  ⟨k.group, k.version, k.plural⟩

namespace Collection

/-- The path of a collection, for all namespaces or for one. -/
def path (c : Collection) (ns : Option String) : String :=
  let api := if c.group = "" then "/api/" else "/apis/" ++ c.group ++ "/"
  let place := match ns with
    | some ns => "/namespaces/" ++ ns ++ "/"
    | none => "/"
  api ++ c.version ++ place ++ c.plural

/-- The path of an object. -/
def objectPath (c : Collection) (ns : Option String) (name : String) : String :=
  c.path ns ++ "/" ++ name

/-- The path of the status of an object. -/
def statusPath (c : Collection) (ns : Option String) (name : String) : String :=
  c.objectPath ns name ++ "/status"

end Collection

namespace Address

/-- Whether a character can stand in the path of an address. -/
def isPathChar (c : Char) : Bool :=
  let n := c.toNat
  n = 0x21 || n = 0x22 || (0x24 ≤ n && n ≤ 0x3B) || n = 0x3D || (0x40 ≤ n && n ≤ 0x5F) ||
    (0x61 ≤ n && n ≤ 0x7E) || 0x7F ≤ n

/-- Whether a character can stand in the query of an address, after the first question mark. -/
def isQueryChar (c : Char) : Bool :=
  let n := c.toNat
  n = 0x21 || (0x24 ≤ n && n ≤ 0x3B) || n = 0x3D || (0x3F ≤ n && n ≤ 0x7E) || 0x7F ≤ n

/-- The query of an address up to its fragment, or nothing if there is a character in it that no
address has. -/
def query? : List Char → Option (List Char)
  | [] => some []
  | c :: cs =>
    if c = '#' then some []
    else if isQueryChar c then (query? cs).map (c :: ·)
    else none

/-- The path and query of an address up to its fragment, or nothing if there is a character in
them that no address has. -/
def target? : List Char → Option (List Char)
  | [] => some []
  | c :: cs =>
    if c = '?' then (query? cs).map (c :: ·)
    else if c = '#' then some []
    else if isPathChar c then (target? cs).map (c :: ·)
    else none

/-- The longest address, in bytes. -/
def maxSize : Nat := 65534

/-- A text without the question mark at its end, if it has one there: an empty query says
nothing. -/
def withoutEmptyQuery (cs : List Char) : List Char :=
  if cs.getLast? = some '?' then cs.dropLast else cs

/-- The target that a request for a path names, or why there can be no such request. A query of
no parameters is appended to every path. -/
def ofPath (path : String) : Except String String :=
  let full := path ++ "?"
  if maxSize < full.utf8ByteSize then .error "uri too long"
  else match target? full.toList with
    | some cs => .ok (String.ofList (withoutEmptyQuery cs))
    | none => .error "invalid uri character"

end Address

end ClusterFleet
