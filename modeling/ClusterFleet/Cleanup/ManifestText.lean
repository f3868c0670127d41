import ClusterFleet.Cleanup.Target
import ClusterFleet.Yaml.Node

/-!
# Cleanup — the text of manifests

A manifest is a YAML document. Of its fields only a few are looked at, each of which may be there
once; all others may hold anything. A field holds text, whatever the text may mean elsewhere, except
that a null or nothing at all leaves it missing. Why a text is no manifest is not told.
-/

namespace ClusterFleet

namespace Manifest

/-- The failure to make sense of a manifest. -/
def unreadable : Failure := .plain "decoding manifest"

/-- The words for a value that is missing. -/
def nullWords : List String := ["null", "Null", "NULL", "~"]

/-- The tag of a value that is missing. -/
def nullTag : String := "tag:yaml.org,2002:null"

/-- The node that a node stands for in its document. -/
def follow? (root : Yaml.Node) : Yaml.Node → Option Yaml.Node
  | .alias label => root.labelled? label
  | n => some n

/-- The name that a key is. -/
def keyName? (root key : Yaml.Node) : Option String :=
  match follow? root key with
  | some (.scalar _ _ _ text) => some text
  | _ => none

/-- The known fields of a mapping. A name that is no text fails, and so does a known field that is
there twice. An empty node has no fields. -/
def fields? (root : Yaml.Node) (known : List String) (n : Yaml.Node) :
    Option (List (String × Yaml.Node)) :=
  match follow? root n with
  | some (.mapping _ entries) =>
    entries.foldlM (fun fields entry => do
      let name ← keyName? root entry.1
      if !known.contains name then return fields
      else if (fields.lookup name).isSome then none
      else return fields ++ [(name, entry.2)]) []
  | some (.scalar _ _ true "") => some []
  | _ => none

/-- The text of a plain node with a tag: only the tag for what is missing says anything about it, and
then the text must say the same. -/
def taggedText? (tag text : String) : Option (Option String) :=
  if tag ≠ nullTag then some (some text)
  else if nullWords.contains text then some none
  else none

/-- The text of a node, if it has some; a node that is no text at all fails. -/
def nodeText? (root n : Yaml.Node) : Option (Option String) :=
  match follow? root n with
  | some (.scalar _ _ false text) => some (some text)
  | some (.scalar _ (some tag) true text) => taggedText? tag text
  | some (.scalar _ none true text) =>
    some (if text.isEmpty || nullWords.contains text then none else some text)
  | _ => none

/-- The text of a field; a field that is not there has none. -/
def fieldText? (root : Yaml.Node) (name : String) (fields : List (String × Yaml.Node)) :
    Option (Option String) :=
  match fields.lookup name with
  | none => some none
  | some n => nodeText? root n

/-- The fields that say what an object is called. -/
def readMetadata (root : Yaml.Node) : Option Yaml.Node → Option (Option String × Option String)
  | none => some (none, none)
  | some n => do
    let fields ← fields? root ["name", "namespace"] n
    return (← fieldText? root "name" fields, ← fieldText? root "namespace" fields)

/-- What a document says of the object it describes. -/
def ofNode? (root : Yaml.Node) : Option Manifest := do
  let fields ← fields? root ["apiVersion", "kind", "metadata"] root
  let apiVersion ← fieldText? root "apiVersion" fields
  let kind ← fieldText? root "kind" fields
  let (name, ns) ← readMetadata root (fields.lookup "metadata")
  return ⟨apiVersion, kind, name, ns⟩

/-- What a text says of the object it describes. -/
def ofText? (text : String) : Option Manifest :=
  if text.toList.all Yaml.isAllowed then
    match Yaml.Node.read text.toList with
    | none => none
    | some none => some ⟨none, none, none, none⟩
    | some (some root) => ofNode? root
  else none

/-- The object that a manifest in UTF-8 names. -/
def targetOfBytes (bytes : ByteArray) : Except Failure Target :=
  match (String.fromUTF8? bytes).bind ofText? with
  | none => .error unreadable
  | some m => m.target

end Manifest

end ClusterFleet
