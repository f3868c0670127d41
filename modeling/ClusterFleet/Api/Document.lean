import ClusterFleet.Api.Schema
import ClusterFleet.Object.Form
import ClusterFleet.Store.Error

/-!
# API — documents

Objects as the API server sends them, of any kind: metadata in normal form, and all other fields as
they are. A kind's own form is read from a document in a second step. A list of documents comes
page by page.
-/

namespace ClusterFleet

/-- An object as the server sends it. -/
structure Document where
  /-- The metadata, in normal form. -/
  metadata : Json
  /-- All other fields. -/
  others : List (String × Json)

namespace Document

/-- Reads a document. Only its metadata can be faulty; where there is none it is empty. -/
def read : Json → Except Form.Fault Document
  | .object fields => do
    let metadata ← Schema.objectMeta ((Fields.get? "metadata" fields).getD (.object []))
    return ⟨metadata, Fields.erase "metadata" fields⟩
  | v => Form.mismatch v "struct DynamicObject"

/-- A document as JSON. -/
def write (d : Document) : Json :=
  .object (Fields.insert "metadata" d.metadata d.others)

/-- The version that a document carries; an empty one is none. -/
def version? (d : Document) : Option String :=
  ((d.metadata.field? "resourceVersion").bind Json.text?).filter (· ≠ "")

/-- The object of a kind that a document holds. -/
def resource (kind : Kind) (d : Document) : Except StoreError Resource :=
  match Resource.read kind d.write with
  | .ok r => .ok r
  | .error fault => .error (.precondition ("decoding " ++ kind.name ++ ": " ++ fault.message))

end Document

/-- One page of a list. -/
structure Page (α : Type) where
  /-- The items. -/
  items : List α
  /-- The mark under which the next page is to be had, if there is one. -/
  next : Option String
  /-- The version of the list, if it has one. -/
  version : Option String

/-- A text that is neither missing nor empty. -/
def Page.mark (metadata : Json) (name : String) : Option String :=
  ((metadata.field? name).bind Json.text?).filter (· ≠ "")

/-- Reads one page of a list. Its items must be there, be they `null`. -/
def Page.read (item : Json → Except Form.Fault α) : Json → Except Form.Fault (Page α)
  | .object fields => do
    let items ← match Fields.get? "items" fields with
      | none => .error (.missing "items")
      | some .null => pure []
      | some v => Form.list item v
    let metadata ← Schema.listMeta ((Fields.get? "metadata" fields).getD (.object []))
    return ⟨items, mark metadata "continue", mark metadata "resourceVersion"⟩
  | v => Form.mismatch v "struct ObjectList"

end ClusterFleet
