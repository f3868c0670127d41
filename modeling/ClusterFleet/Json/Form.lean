import ClusterFleet.Decimal.Double
import ClusterFleet.Json.Basic
import ClusterFleet.Text.Quoted
import ClusterFleet.Time.Timestamp

/-!
# JSON — forms

A form says how a JSON value is read as a value of the domain. A record is read field by field, in
the order in which the object holds its fields, so that the first faulty field decides the fault;
only then are missing fields noticed. Some records may also be written as the sequence of their
fields in the order declared.
-/

namespace ClusterFleet

namespace Form

/-- Why a JSON value does not have a form. -/
inductive Fault where
  /-- A value of another type than expected. -/
  | wrongType (found expected : String)
  /-- A value of the expected type that is not the expected one. -/
  | wrongValue (found expected : String)
  /-- A field that must be there is not. -/
  | missing (field : String)
  /-- A sequence of fields ends before the field at this index, which must be there. -/
  | tooShort (length : Nat) (record : String) (fields : Nat)
  /-- A sequence has this many items, more than the record has fields. -/
  | tooLong (length : Nat)
  /-- A word that is not among the alternatives. -/
  | unknownWord (word : String) (known : List String)
  /-- An object that stands for a word has not exactly one entry. -/
  | notOneEntry
  /-- A text that is no timestamp. -/
  | badTimestamp (fault : Timestamp.Fault)
  /-- A fault that a nested notation reports in its own words. -/
  | inner (message : String)
  deriving DecidableEq, Repr

/-- Words between backquotes, with commas between them. -/
def ticked (words : List String) : String :=
  ", ".intercalate (words.map fun w => "\x60" ++ w ++ "\x60")

/-- The wording of a fault. -/
def Fault.message : Fault → String
  | .wrongType found expected => "invalid type: " ++ found ++ ", expected " ++ expected
  | .wrongValue found expected => "invalid value: " ++ found ++ ", expected " ++ expected
  | .missing field => "missing field " ++ ticked [field]
  | .tooShort length record fields =>
    "invalid length " ++ Decimal.text length ++ ", expected struct " ++ record ++ " with " ++
      Decimal.text fields ++ " elements"
  | .tooLong length =>
    "invalid length " ++ Decimal.text length ++ ", expected fewer elements in array"
  | .unknownWord word known =>
    "unknown variant " ++ ticked [word] ++ ", expected one of " ++ ticked known
  | .notOneEntry => "invalid value: map, expected map with a single key"
  | .badTimestamp fault => fault.message
  | .inner message => message

/-- How a message names a value that was found. -/
def found : Json → String
  | .null => "null"
  | .bool b => "boolean " ++ ticked [if b then "true" else "false"]
  | .number (.int n) => "integer " ++ ticked [toString n]
  | .number (.real x) => "floating point " ++ ticked [Decimal.messageText x]
  | .string s => "string " ++ Text.quoted s
  | .array _ => "sequence"
  | .object _ => "map"

/-- The fault of a value that is not of the expected type. -/
def mismatch (v : Json) (expected : String) : Except Fault α :=
  .error (.wrongType (found v) expected)

/-- A text. -/
def text : Json → Except Fault String
  | .string s => .ok s
  | v => mismatch v "a string"

/-- A value that may be missing, which `null` says. -/
def optional (read : Json → Except Fault α) : Json → Except Fault (Option α)
  | .null => .ok none
  | v => (read v).map some

/-- A list. -/
def list (read : Json → Except Fault α) : Json → Except Fault (List α)
  | .array items => items.mapM read
  | v => mismatch v "a sequence"

/-- A map from names to texts, in ascending order of the names. -/
def textMap : Json → Except Fault (List (String × String))
  | .object fields => fields.mapM fun p => (text p.2).map (p.1, ·)
  | v => mismatch v "a map"

/-- A timestamp. -/
def timestamp : Json → Except Fault Instant
  | .string s => match Timestamp.read s with
    | .ok t => .ok t
    | .error fault => .error (.badTimestamp fault)
  | v => mismatch v "an RFC 3339 formatted date and time string"

/-- One of several words. -/
def wordOf (known : List (String × α)) (word : String) : Except Fault α :=
  match Fields.get? word known with
  | some x => .ok x
  | none => .error (.unknownWord word (known.map (·.1)))

/-- One of several words, written as a text or as an object whose only entry is the word with
`null`. -/
def word (known : List (String × α)) : Json → Except Fault α
  | .string s => wordOf known s
  | .object [(k, v)] => do
    let x ← wordOf known k
    match v with
    | .null => return x
    | v => mismatch v "unit"
  | .object _ => .error .notOneEntry
  | v => mismatch v "string or map"

/-- A field of a record: how its value changes a draft of the record. -/
structure Field (σ : Type) where
  /-- The name. -/
  name : String
  /-- Whether the field must be there. -/
  needed : Bool
  /-- The change that a value makes to the draft. -/
  read : Json → Except Fault (σ → σ)

/-- A record: its fields in the order declared, and the draft that reading starts from. -/
structure Record (σ : Type) where
  /-- The name in messages. -/
  name : String
  /-- The draft before any field is read. -/
  blank : σ
  /-- The fields. -/
  fields : List (Field σ)

namespace Record

variable {σ : Type}

/-- The field of a name. -/
def field? (r : Record σ) (name : String) : Option (Field σ) :=
  r.fields.find? fun f => f.name = name

/-- Reads the fields that an object holds; it may hold others, which count for nothing. -/
def readHeld (r : Record σ) : List (String × Json) → σ → Except Fault σ
  | [], draft => .ok draft
  | (name, v) :: rest, draft =>
    match r.field? name with
    | none => readHeld r rest draft
    | some f => do
      let change ← f.read v
      readHeld r rest (change draft)

/-- The first field that must be there and is not. -/
def firstMissing? (r : Record σ) (held : List (String × Json)) : Option (Field σ) :=
  r.fields.find? fun f => f.needed && (Fields.get? f.name held).isNone

/-- Reads a record from the fields of an object. -/
def readObject (r : Record σ) (held : List (String × Json)) : Except Fault σ := do
  let draft ← r.readHeld held r.blank
  match r.firstMissing? held with
  | some f => .error (.missing f.name)
  | none => return draft

/-- Reads the remaining fields from the remaining items; the count is that of the fields already
read. -/
def readItems (r : Record σ) (count : Nat) :
    List (Field σ) → List Json → σ → Except Fault (List Json × σ)
  | [], items, draft => .ok (items, draft)
  | f :: fields, [], draft =>
    if f.needed then .error (.tooShort count r.name r.fields.length)
    else readItems r (count + 1) fields [] draft
  | f :: fields, v :: items, draft => do
    let change ← f.read v
    readItems r (count + 1) fields items (change draft)

/-- Reads a record from the sequence of its fields. -/
def readSequence (r : Record σ) (items : List Json) : Except Fault σ := do
  let (rest, draft) ← r.readItems 0 r.fields items r.blank
  if rest.isEmpty then return draft else .error (.tooLong items.length)

/-- Reads a record in either of its forms. -/
def read (r : Record σ) : Json → Except Fault σ
  | .object held => r.readObject held
  | .array items => r.readSequence items
  | v => mismatch v ("struct " ++ r.name)

/-- Reads a record that has the form of an object only. -/
def readPlain (r : Record σ) : Json → Except Fault σ
  | .object held => r.readObject held
  | v => mismatch v r.name

end Record

end Form

end ClusterFleet
