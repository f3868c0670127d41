import ClusterFleet.Json.Form
import ClusterFleet.Text.Base64

/-!
# API — shapes of the server's types

How the types of the API server are read. They are lenient: a field may be missing or `null`, and
unknown fields are dropped; a value of the wrong type is still a fault. A shape brings a value to
its normal form, which holds the known fields that are present and nothing else.
-/

namespace ClusterFleet

/-- A shape: the normal form of a value, or why it has none. -/
abbrev Shape := Json → Except Form.Fault Json

namespace Shape

open Form

/-- Any value at all. -/
def any : Shape := .ok

/-- A text. -/
def text : Shape := fun v =>
  (Form.text v).map .string

/-- An integer of 64 bits with a sign. -/
def integer : Shape
  | .number (.int n) =>
    if n < Nat.pow 2 63 then .ok (.number (.int n))
    else .error (.wrongValue (found (.number (.int n))) "i64")
  | v => mismatch v "i64"

/-- Yes or no. -/
def boolean : Shape
  | .bool b => .ok (.bool b)
  | v => mismatch v "a boolean"

/-- A timestamp. Its normal form has no fraction of a second. -/
def timestamp : Shape := fun v =>
  (Form.timestamp v).map fun t => .string (Timestamp.write t.wholeSecond)

/-- Bytes, written in base 64. -/
def bytes : Shape
  | .string s => match Base64.textFault? s with
    | none => .ok (.string s)
    | some fault => .error (.inner fault.message)
  | v => mismatch v "base64-encoded string"

/-- The given text and no other. -/
def exactly (expected : String) : Shape
  | .string s =>
    if s = expected then .ok (.string s)
    else .error (.wrongValue (found (.string s)) expected)
  | v => mismatch v "a string"

/-- A list. -/
def list (item : Shape) : Shape := fun v =>
  (Form.list item v).map .array

/-- A map from names to texts. -/
def textMap : Shape := fun v =>
  (Form.textMap v).map fun entries => .object (entries.map fun p => (p.1, .string p.2))

/-- A value that may be missing, which `null` says. -/
def optional (shape : Shape) : Shape
  | .null => .ok .null
  | v => shape v

/-- Fields that may all be missing. -/
def optionals (fields : List (String × Shape)) : List (String × Shape) :=
  fields.map fun p => (p.1, optional p.2)

/-- The known fields that an object holds, in normal form; one that comes out as `null` is
missing. -/
def readFields (fields : List (String × Shape)) :
    List (String × Json) → Except Fault (List (String × Json))
  | [] => .ok []
  | (name, v) :: rest =>
    match Fields.get? name fields with
    | none => readFields fields rest
    | some shape => do
      let v ← shape v
      let rest ← readFields fields rest
      match v with
      | .null => return rest
      | v => return (name, v) :: rest

/-- A record with the given fields. -/
def record (name : String) (fields : List (String × Shape)) : Shape
  | .object held => (readFields fields held).map .object
  | v => mismatch v name

/-- Puts in the given fields where there is none of their name. -/
def complete (standIns : List (String × Json)) (fields : List (String × Json)) :
    List (String × Json) :=
  standIns.foldl
    (fun fields p => if (Fields.get? p.1 fields).isSome then fields
      else Fields.insert p.1 p.2 fields)
    fields

/-- A record some of whose fields are texts that are always there, empty where they were
missing. -/
def recordWithTexts (name : String) (texts : List String) (fields : List (String × Shape)) :
    Shape := fun v =>
  (record name (optionals (texts.map fun t => (t, text)) ++ fields) v).map fun
    | .object held => .object (complete (texts.map fun t => (t, .string "")) held)
    | v => v

end Shape

end ClusterFleet
