import ClusterFleet.Api.Document
import ClusterFleet.Api.Server
import ClusterFleet.Hub.State

/-!
# API — the server as a store

The three requests on objects, made to an API server. A status is written with the version that
was read, so that the server can refuse a write that comes too late.
-/

namespace ClusterFleet

namespace Server

/-- The reason under which a server says that there is no such object. -/
def absentReason : String := "NotFound"

/-- Reads one document, if it is there. A refusal for the reason that it is not there counts as
such whatever its number. -/
def document? (c : Collection) (ns : Option String) (name : String) (s : Server) :
    Except ApiError (Option Document) × Server :=
  match s.askFor Document.read .get (c.objectPath ns name) none with
  | (.ok d, s) => (.ok (some d), s)
  | (.error (.refused r), s) =>
    if r.reason = absentReason then (.ok none, s) else (.error (.refused r), s)
  | (.error e, s) => (.error e, s)

/-- Reads one object. -/
def getResource (kind : Kind) (key : Key) (s : Server) :
    Except StoreError (Option Resource) × Server :=
  match s.document? kind.collection key.ns key.name with
  | (.ok none, s) => (.ok none, s)
  | (.ok (some d), s) => ((d.resource kind).map some, s)
  | (.error e, s) => (.error (e.toStoreError kind key), s)

/-- The key that stands for a whole collection in errors. -/
def listKey (kind : Kind) : Key :=
  Key.cluster kind.plural

/-- Reads all objects of a kind, in the server's order. -/
def listResources (kind : Kind) (s : Server) : Except StoreError (List Resource) × Server :=
  match s.askFor (Page.read Document.read) .get (kind.collection.path none) none with
  | (.ok page, s) => (page.items.mapM (Document.resource kind), s)
  | (.error e, s) => (.error (e.toStoreError kind (listKey kind)), s)

/-- An object with its type, as it is sent to the server. -/
def requestBody (kind : Kind) (object : Resource) : Json :=
  match object.write with
  | .object fields =>
    .object (Fields.insert "apiVersion" (.string kind.apiVersion)
      (Fields.insert "kind" (.string kind.name) fields))
  | v => v

/-- Writes the status of an object. An accepted write counts even if its answer makes no sense as
an object of the kind. -/
def writeStatus (kind : Kind) (object : Resource) (s : Server) :
    Except StoreError Resource × Server :=
  let key := object.key
  match s.askFor Document.read .put (kind.collection.statusPath key.ns key.name)
      (some (requestBody kind object)) with
  | (.ok d, s) => (d.resource kind, { s with statusWrites := s.statusWrites + 1 })
  | (.error e, s) => (.error (e.toStoreError kind key), s)

instance : Authority Server where
  get := getResource
  list := listResources
  updateStatus := writeStatus
  counts s := Counts.add .serverWrites s.statusWrites []

end Server

end ClusterFleet
