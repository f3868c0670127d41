import ClusterFleet.Json.Form
import ClusterFleet.Object.Resource

/-!
# Objects — JSON forms

The JSON forms of conditions, objects and keys. Writing shows every field of a condition and of a
status, and of metadata the name and whatever else is there. Reading accepts what writing produces
and more: missing optional fields, foreign fields, and the sequence form of records.
-/

namespace ClusterFleet

open Form

/-! ## Conditions -/

/-- The words for a condition status. -/
def ConditionStatus.words : List (String × ConditionStatus) :=
  [("True", .holds), ("False", .fails), ("Unknown", .unknown)]

/-- The first instant of the year 1970. -/
def Instant.epoch : Instant :=
  ⟨⟨1970, 1, 1⟩, ⟨0, 0⟩, by decide, by decide⟩

/-- The form of a condition. -/
def Condition.form : Record Condition where
  name := "Condition"
  blank := ⟨"", .unknown, "", "", Instant.epoch⟩
  fields :=
    [⟨"type", true, fun v => (text v).map fun s c => { c with type := s }⟩,
     ⟨"status", true, fun v => (word ConditionStatus.words v).map fun s c => { c with status := s }⟩,
     ⟨"reason", false, fun v => (text v).map fun s c => { c with reason := s }⟩,
     ⟨"message", false, fun v => (text v).map fun s c => { c with message := s }⟩,
     ⟨"lastTransitionTime", true, fun v => (timestamp v).map fun t c => { c with since := t }⟩]

/-- Reads a condition. -/
def Condition.read (v : Json) : Except Fault Condition :=
  Condition.form.read v

/-- A condition as JSON. -/
def Condition.write (c : Condition) : Json :=
  .object
    [("lastTransitionTime", .string (Timestamp.write c.since)),
     ("message", .string c.message),
     ("reason", .string c.reason),
     ("status", .string c.status.text),
     ("type", .string c.type)]

/-! ## Objects -/

/-- The form of metadata. -/
def Metadata.form : Record Metadata where
  name := "ObjectMeta"
  blank := ⟨"", none, none, none, [], none⟩
  fields :=
    [⟨"name", true, fun v => (text v).map fun s m => { m with name := s }⟩,
     ⟨"namespace", false, fun v => (optional text v).map fun s m => { m with ns := s }⟩,
     ⟨"uid", false, fun v => (optional text v).map fun s m => { m with uid := s }⟩,
     ⟨"resourceVersion", false,
      fun v => (optional text v).map fun s m => { m with version := s }⟩,
     ⟨"labels", false, fun v => (textMap v).map fun l m => { m with labels := l }⟩,
     ⟨"deletionTimestamp", false,
      fun v => (optional timestamp v).map fun t m => { m with deletedAt := t }⟩]

/-- A field that is shown only when it has a value. -/
def Metadata.shown (name : String) (value : Option Json) : List (String × Json) :=
  match value with
  | some v => [(name, v)]
  | none => []

/-- The labels as JSON, if there are any. -/
def Metadata.writeLabels (labels : List (String × String)) : Option Json :=
  if labels.isEmpty then none else some (.object (labels.map fun p => (p.1, .string p.2)))

/-- Metadata as JSON. -/
def Metadata.write (m : Metadata) : Json :=
  .object
    (shown "deletionTimestamp" (m.deletedAt.map fun t => .string (Timestamp.write t)) ++
     shown "labels" (writeLabels m.labels) ++
     [("name", .string m.name)] ++
     shown "namespace" (m.ns.map .string) ++
     shown "resourceVersion" (m.version.map .string) ++
     shown "uid" (m.uid.map .string))

/-- The name of a kind's record in messages. -/
def Kind.recordName : Kind → String
  | .member => "Member"
  | .set => "ClusterSet"
  | .addOn => "AddOn"

/-- The form of a status, which is a list of conditions. -/
def Resource.statusForm (kind : Kind) : Record (List Condition) where
  name := kind.recordName ++ "Status"
  blank := []
  fields := [⟨"conditions", false, fun v => (list Condition.read v).map fun cs _ => cs⟩]

/-- The form of an object of a kind. -/
def Resource.form (kind : Kind) : Record Resource where
  name := kind.recordName
  blank := ⟨Metadata.form.blank, []⟩
  fields :=
    [⟨"metadata", true, fun v => (Metadata.form.read v).map fun m r => { r with metadata := m }⟩,
     ⟨"status", false,
      fun v => ((statusForm kind).read v).map fun cs r => { r with conditions := cs }⟩]

/-- Reads an object of a kind. -/
def Resource.read (kind : Kind) (v : Json) : Except Fault Resource :=
  (Resource.form kind).read v

/-- A status as JSON. -/
def Resource.writeStatus (conditions : List Condition) : Json :=
  .object [("conditions", .array (conditions.map Condition.write))]

/-- An object as JSON. -/
def Resource.write (r : Resource) : Json :=
  .object [("metadata", r.metadata.write), ("status", writeStatus r.conditions)]

/-! ## Kinds and keys -/

/-- The words for the kinds. -/
def Kind.words : List (String × Kind) :=
  [("Member", .member), ("Set", .set), ("AddOn", .addOn)]

/-- Reads a kind. -/
def Kind.read (v : Json) : Except Fault Kind :=
  word Kind.words v

/-- The form of a key. -/
def Key.form : Record Key where
  name := "ObjectKey"
  blank := ⟨none, ""⟩
  fields :=
    [⟨"namespace", false, fun v => (optional text v).map fun s k => { k with ns := s }⟩,
     ⟨"name", true, fun v => (text v).map fun s k => { k with name := s }⟩]

/-- Reads a key: a text is the name of an object without namespace, whatever its characters. -/
def Key.read : Json → Except Fault Key
  | .string s => .ok (Key.cluster s)
  | v => Key.form.read v

end ClusterFleet
