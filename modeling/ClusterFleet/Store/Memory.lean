import ClusterFleet.Object.Form
import ClusterFleet.Store.Error

/-!
# Store — documents in memory

A store that holds each object as the JSON document of its last state, under its kind and key.
Every write gives the document a version that was never used before, so an update that carries the
version it read can tell whether anything has changed since. Faults may be planted: the next reads
or writes then fail as told, in the order planted.
-/

namespace ClusterFleet

/-- What a client asked of the store. -/
inductive Verb where
  /-- One object. -/
  | get
  /-- All objects of a kind. -/
  | list
  /-- A write of one status. -/
  | updateStatus
  deriving DecidableEq, Repr

/-- The word for a verb in records. -/
def Verb.text : Verb → String
  | .get => "get"
  | .list => "list"
  | .updateStatus => "update_status"

/-- One request that the store has seen. -/
structure Action where
  /-- What was asked. -/
  verb : Verb
  /-- Of which kind. -/
  kind : Kind
  /-- For which object, if for a single one. -/
  key : Option Key
  deriving DecidableEq, Repr

/-- One document of the store. -/
structure Entry where
  /-- The kind of the object. -/
  kind : Kind
  /-- The key of the object. -/
  key : Key
  /-- The object, as JSON. -/
  document : Json

/-- A store of documents. -/
structure MemoryStore where
  /-- The documents, at most one for each kind and key. -/
  entries : List Entry
  /-- The number of versions given out so far. -/
  versions : Nat
  /-- The number of identities given out so far. -/
  identities : Nat
  /-- The number of statuses written so far. -/
  statusWrites : Nat
  /-- The requests seen, oldest first. -/
  actions : List Action
  /-- The faults that the next reads end in. -/
  readFaults : List StoreError
  /-- The faults that the next status writes end in. -/
  writeFaults : List StoreError

namespace MemoryStore

/-- A store without documents. -/
def empty : MemoryStore := ⟨[], 0, 0, 0, [], [], []⟩

/-! ## Documents -/

/-- The document under a kind and key. -/
def document? (s : MemoryStore) (kind : Kind) (key : Key) : Option Json :=
  (s.entries.find? fun e => e.kind = kind && e.key = key).map (·.document)

/-- Puts a document under a kind and key, in place of the one that is there. -/
def insertDocument (kind : Kind) (key : Key) (document : Json) : List Entry → List Entry
  | [] => [⟨kind, key, document⟩]
  | e :: rest =>
    if e.kind = kind && e.key = key then ⟨kind, key, document⟩ :: rest
    else e :: insertDocument kind key document rest

/-- The object that a stored document holds. -/
def decode (kind : Kind) (document : Json) : Except StoreError Resource :=
  match Resource.read kind document with
  | .ok r => .ok r
  | .error fault =>
    .error (.precondition ("decoding stored " ++ kind.name ++ ": " ++ fault.message))

/-- The version that a stored document carries. -/
def documentVersion? (document : Json) : Option String :=
  ((document.field? "metadata").bind (·.field? "resourceVersion")).bind (·.text?)

/-- The document with another version. -/
def setVersion (version : Nat) : Json → Json
  | .object fields => match Fields.get? "metadata" fields with
    | some (.object metadata) =>
      .object (Fields.insert "metadata"
        (.object (Fields.insert "resourceVersion" (.string (Decimal.text version)) metadata)) fields)
    | _ => .object fields
  | v => v

/-- The document with another status. -/
def setStatus (status : Json) : Json → Json
  | .object fields => .object (Fields.insert "status" status fields)
  | v => v

/-! ## The authority's own changes -/

/-- The identity with the given number. -/
def identity (n : Nat) : String :=
  "00000000-0000-4000-8000-" ++ String.ofList (Decimal.padded 12 n)

/-- Creates or replaces an object. It is given a fresh version, and an identity if it has none. -/
def put (kind : Kind) (object : Resource) (s : MemoryStore) : Resource × MemoryStore :=
  let version := s.versions + 1
  let fresh := object.metadata.uid.isNone
  let identities := if fresh then s.identities + 1 else s.identities
  let uid := if fresh then some (identity identities) else object.metadata.uid
  let stored : Resource :=
    { object with metadata :=
        { object.metadata with uid := uid, version := some (Decimal.text version) } }
  (stored,
   { s with
      entries := insertDocument kind stored.key stored.write s.entries
      versions := version
      identities := identities })

/-- Changes a stored object and puts it back, under its new key if the change gave it one. -/
def modify (kind : Kind) (key : Key) (change : Resource → Resource) (s : MemoryStore) :
    Except StoreError Resource × MemoryStore :=
  match s.document? kind key with
  | none => (.error (.notFound kind key), s)
  | some document => match decode kind document with
    | .error e => (.error e, s)
    | .ok object =>
      let (stored, s) := s.put kind (change object)
      (.ok stored, s)

/-- Removes an object, and says whether there was one. -/
def remove (kind : Kind) (key : Key) (s : MemoryStore) : Bool × MemoryStore :=
  ((s.document? kind key).isSome,
   { s with entries := s.entries.filter fun e => !(e.kind = kind && e.key = key) })

/-! ## Requests of clients -/

/-- Notes a request. -/
def observe (verb : Verb) (kind : Kind) (key : Option Key) (s : MemoryStore) : MemoryStore :=
  { s with actions := s.actions ++ [⟨verb, kind, key⟩] }

/-- Reads one object. -/
def get (kind : Kind) (key : Key) (s : MemoryStore) :
    Except StoreError (Option Resource) × MemoryStore :=
  let s := s.observe .get kind (some key)
  match s.readFaults with
  | fault :: later => (.error fault, { s with readFaults := later })
  | [] => match s.document? kind key with
    | none => (.ok none, s)
    | some document => ((decode kind document).map some, s)

/-- Reads all objects of a kind, in the order of their keys. -/
def list (kind : Kind) (s : MemoryStore) : Except StoreError (List Resource) × MemoryStore :=
  let s := s.observe .list kind none
  match s.readFaults with
  | fault :: later => (.error fault, { s with readFaults := later })
  | [] =>
    let documents := (s.entries.filter fun e => e.kind = kind).map (·.document)
    ((documents.mapM (decode kind)).map (Key.sortBy Resource.key), s)

/-- A planted write fault, as it is reported for one object: a conflict names that object. -/
def faultFor (kind : Kind) (key : Key) : StoreError → StoreError
  | .conflict _ _ message => .conflict kind key message
  | fault => fault

/-- What is said of a version that is no longer the stored one. -/
def staleMessage (given stored : Option String) : String :=
  "resourceVersion " ++ given.getD "<none>" ++ " is stale (current " ++ stored.getD "<none>" ++ ")"

/-- Writes the status of an object whose version is still the stored one. Nothing else is taken
from the caller's object. -/
def updateStatus (kind : Kind) (object : Resource) (s : MemoryStore) :
    Except StoreError Resource × MemoryStore :=
  let key := object.key
  let s := s.observe .updateStatus kind (some key)
  match s.writeFaults with
  | fault :: later => (.error (faultFor kind key fault), { s with writeFaults := later })
  | [] => match s.document? kind key with
    | none => (.error (.notFound kind key), s)
    | some document =>
      let stored := documentVersion? document
      if object.metadata.version ≠ stored then
        (.error (.conflict kind key (staleMessage object.metadata.version stored)), s)
      else
        let version := s.versions + 1
        let s := { s with versions := version }
        let next := setVersion version (setStatus (Resource.writeStatus object.conditions) document)
        match decode kind next with
        | .error e => (.error e, s)
        | .ok written =>
          (.ok written,
           { s with
              entries := insertDocument kind key next s.entries
              statusWrites := s.statusWrites + 1 })

/-! ## Planted faults -/

/-- Plants conflicts for the next status writes. -/
def plantConflicts (n : Nat) (s : MemoryStore) : MemoryStore :=
  let conflict := StoreError.conflict .set (Key.cluster "") "injected conflict"
  { s with writeFaults := s.writeFaults ++ List.replicate n conflict }

/-- Plants a fault for a status write. -/
def plantWriteFault (fault : StoreError) (s : MemoryStore) : MemoryStore :=
  { s with writeFaults := s.writeFaults ++ [fault] }

/-- Plants a fault for a read. -/
def plantReadFault (fault : StoreError) (s : MemoryStore) : MemoryStore :=
  { s with readFaults := s.readFaults ++ [fault] }

end MemoryStore

end ClusterFleet
