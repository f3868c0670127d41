import ClusterFleet.Text.Quoted
import ClusterFleet.Text.Ranges

/-!
# Objects — keys

The key of an object within its kind: a name, and a namespace for objects that live in one. The
text of a key is the name alone or `namespace/name`.
-/

namespace ClusterFleet

/-- The key of an object. -/
structure Key where
  /-- The namespace, if the object lives in one. -/
  ns : Option String
  /-- The name. -/
  name : String
  deriving DecidableEq, Repr, Inhabited

namespace Key

/-- The key of an object that lives in no namespace. -/
def cluster (name : String) : Key := ⟨none, name⟩

/-- The key of an object in a namespace. -/
def namespaced (ns name : String) : Key := ⟨some ns, name⟩

/-- The text of a key. -/
def display (k : Key) : String :=
  match k.ns with
  | some ns => ns ++ "/" ++ k.name
  | none => k.name

/-- The key a text denotes: a name, or a namespace and a name with one slash between them, none of
them empty. -/
def parse? (text : String) : Option Key :=
  match Text.splitAt '/' text.toList with
  | [name] => if name.isEmpty then none else some (cluster (String.ofList name))
  | [ns, name] =>
    if ns.isEmpty || name.isEmpty then none
    else some (namespaced (String.ofList ns) (String.ofList name))
  | _ => none

/-- What is said of a text that is no key. -/
def parseMessage (text : String) : String :=
  "invalid object key " ++ Text.quoted text ++ " (expect name or namespace/name)"

/-- The order of keys: those without namespace first, then by namespace, then by name. -/
def before (a b : Key) : Bool :=
  match a.ns, b.ns with
  | none, none => a.name < b.name
  | none, some _ => true
  | some _, none => false
  | some m, some n => m < n || (m = n && a.name < b.name)

/-- Sorts in the order of keys; equal keys keep their order. -/
def sortBy (key : α → Key) (items : List α) : List α :=
  items.mergeSort fun a b => !before (key b) (key a)

end Key

end ClusterFleet
