import ClusterFleet.Api.Document
import ClusterFleet.Api.Server
import ClusterFleet.Hub.ClusterSet

/-!
# API — watching a collection

A watch first lists a collection, page by page, and then follows a stream of events, one JSON
document on each line. When the stream ends it asks for the next one; when events were missed it
lists again. What goes wrong is counted and tried again, so a watch ends only with its reader, or
waits for a server that says nothing more.
-/

namespace ClusterFleet

/-- What a watch has learned. -/
inductive Notice where
  /-- A document is there in this state. -/
  | applied (d : Document)
  /-- A document was there in this state and is gone. -/
  | deleted (d : Document)
  /-- These documents are there, and no others. -/
  | relisted (ds : List Document)

namespace Notice

/-- The change of one object of a kind, if its document holds one. -/
def changeOf (kind : Kind) (change : Resource → Change) (d : Document) : Option Change :=
  (d.resource kind).toOption.map change

/-- The changes of one document each. -/
def each (kind : Kind) (change : Resource → Change) (ds : List Document) :
    List (Option Change) :=
  ds.map (changeOf kind change)

/-- The changes that a notice amounts to; nothing stands for a document that holds no object of
the kind. -/
def changes? (kind : Kind) : Notice → List (Option Change)
  | .applied d => each kind .applied [d]
  | .deleted d => each kind .deleted [d]
  | .relisted ds => each kind .applied ds

/-- The changes that a notice amounts to. -/
def expand (kind : Kind) (n : Notice) : List Change :=
  (n.changes? kind).filterMap id

/-- The number of documents in a notice that hold no object of the kind. -/
def unreadable (kind : Kind) (n : Notice) : Nat :=
  ((n.changes? kind).filter Option.isNone).length

end Notice

namespace Watch

/-! ## Events of a stream -/

/-- One event of a stream. -/
inductive StreamEvent where
  /-- A document was created or changed. -/
  | applied (d : Document)
  /-- A document was removed. -/
  | deleted (d : Document)
  /-- Nothing happened up to now. -/
  | bookmark
  /-- The server gives up. -/
  | failed (r : Refused)

/-- The types of events. -/
inductive EventType where
  /-- A document was created. -/
  | added
  /-- A document was changed. -/
  | modified
  /-- A document was removed. -/
  | deleted
  /-- Nothing happened. -/
  | bookmark
  /-- The server gives up. -/
  | error

/-- The words for the types of events. -/
def typeWords : List (String × EventType) :=
  [("ADDED", .added), ("MODIFIED", .modified), ("DELETED", .deleted), ("BOOKMARK", .bookmark),
   ("ERROR", .error)]

/-- The form of a bookmark's metadata: a version must be there. -/
def bookmarkForm : Form.Record Unit where
  name := "BookmarkMeta"
  blank := ()
  fields := [⟨"resourceVersion", true, fun v => (Form.text v).map fun _ => id⟩]

/-- Reads a bookmark, which is an object with its type and the version it stands for. -/
def readBookmark : Json → Except Form.Fault Unit
  | .object fields => do
    for name in ["apiVersion", "kind"] do
      match Fields.get? name fields with
      | some v => let _ ← Form.text v
      | none => .error (.missing name)
    match Fields.get? "metadata" fields with
    | some v => bookmarkForm.read v
    | none => .error (.missing "metadata")
  | v => Form.mismatch v "struct Bookmark"

/-- Reads what an event of a type is about. -/
def readContent (type : EventType) (v : Json) : Except Form.Fault StreamEvent :=
  match type with
  | .added | .modified => (Document.read v).map .applied
  | .deleted => (Document.read v).map .deleted
  | .bookmark => (readBookmark v).map fun _ => .bookmark
  | .error => (Server.refusedForm.read v).map .failed

/-- Reads an event: its type and what it is about, as an object or as a pair. -/
def readEvent : Json → Except Form.Fault StreamEvent
  | .object fields => do
    match Fields.get? "type" fields, Fields.get? "object" fields with
    | some type, some content => readContent (← Form.word typeWords type) content
    | none, _ => .error (.missing "type")
    | _, none => .error (.missing "object")
  | .array [type, content] => do readContent (← Form.word typeWords type) content
  | v => Form.mismatch v "adjacently tagged enum WatchEvent"

/-! ## From replies to findings -/

/-- What a watch finds. -/
inductive Finding where
  /-- News. -/
  | news (n : Notice)
  /-- Something went wrong. -/
  | fault

/-- What a watch is about to ask for. -/
inductive Phase where
  /-- The next page of a list, after these documents. -/
  | listing (collected : List Document)
  /-- The next stream of events. -/
  | following

/-- The number of the error that says that events were missed. -/
def goneCode : Nat := 410

/-- What one line of a stream says, and whether the watch goes on with the stream after it. A line
that merely ends too early says nothing. -/
def readLine (line : String) : Option Finding × Bool :=
  let news (d : Document) (n : Notice) : Option Finding × Bool :=
    if d.version?.isSome then (some (.news n), true) else (some .fault, false)
  match Json.read line with
  | .error .ended => (none, true)
  | .error .invalid => (some .fault, true)
  | .ok v => match readEvent v with
    | .error _ => (some .fault, true)
    | .ok (.applied d) => news d (.applied d)
    | .ok (.deleted d) => news d (.deleted d)
    | .ok .bookmark => (none, true)
    -- after events were missed the list is read anew
    | .ok (.failed r) => (some .fault, r.code ≠ goneCode)

/-- The lines of a stream. A line break is a line feed, with or without a carriage return before
it. -/
def linesOf (body : String) : List String :=
  (Text.splitAt '\n' body.toList).map fun cs =>
    String.ofList (if cs.getLast? = some '\r' then cs.dropLast else cs)

/-- What the lines of a stream say, and whether the watch goes on with another stream. -/
def follow : List String → List Finding × Bool
  | [] => ([], true)
  | line :: rest =>
    match readLine line with
    | (finding, true) =>
      let (later, goesOn) := follow rest
      (finding.toList ++ later, goesOn)
    | (finding, false) => (finding.toList, false)

/-- The page that a reply holds. -/
def pageOf : Reply → Option (Page Document)
  | .broken _ => none
  | .answer status body =>
    if Server.isErrorStatus status then none
    else (Json.read? body).bind fun v => (Page.read Document.read v).toOption

/-- All that a watch finds in the given replies. A list that fails, or has no version, begins
anew. -/
def findings : List Reply → Phase → List Finding
  | [], _ => []
  | reply :: later, .listing collected =>
    match pageOf reply with
    | none => .fault :: findings later (.listing [])
    | some page =>
      let all := collected ++ page.items
      if page.next.isSome then findings later (.listing all)
      else if page.version.isSome then .news (.relisted all) :: findings later .following
      else .fault :: findings later (.listing [])
  | .broken _ :: later, .following => .fault :: findings later .following
  | .answer _ body :: later, .following =>
    let (found, goesOn) := follow (linesOf body)
    found ++ findings later (if goesOn then .following else .listing [])

/-! ## From findings to changes -/

/-- How a watch stands in the end. -/
structure Report where
  /-- The changes that were told. -/
  changes : List Change
  /-- Whether the watch ended because nobody listened any more. -/
  stopped : Bool
  /-- What was counted. -/
  counts : Counts

/-- Tells changes to a listener who leaves after a number of them. -/
def tell (changes : List Change) (room : Option Nat) : List Change × Option Nat × Bool :=
  match room with
  | none => (changes, none, false)
  | some n => (changes.take n, some (n - changes.length), n < changes.length)

/-- Tells what was found to a listener who leaves after a number of changes, if one is given. -/
def report (kind : Kind) : List Finding → Option Nat → Counts → Report
  | [], _, counts => ⟨[], false, counts⟩
  | .fault :: later, room, counts => report kind later room (counts.bump .watchErrors)
  | .news n :: later, room, counts =>
    let counts := Counts.add .watchDecodeErrors (n.unreadable kind) counts
    match tell (n.expand kind) room with
    | (told, _, true) => ⟨told, true, counts⟩
    | (told, room, false) =>
      let r := report kind later room counts
      { r with changes := told ++ r.changes }

/-- Watches a collection through the given replies. -/
def run (kind : Kind) (replies : List Reply) (room : Option Nat) : Report :=
  report kind (findings replies (.listing [])) room []

end Watch

end ClusterFleet
