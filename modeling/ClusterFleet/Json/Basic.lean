/-!
# JSON — values

The value type of JSON documents. A number keeps whether it was written as an integer, because
messages and forms tell the two apart. The fields of an object are kept in ascending order of
their names, each name once; `Fields.insert` is the only way the library adds one.
-/

namespace ClusterFleet

/-- A JSON number: an integer of 64 bits, or a double. -/
inductive Number where
  /-- Written without point or exponent, and within 64 bits. -/
  | int (n : Int)
  /-- Any other number. -/
  | real (x : Float)

/-- A JSON value. -/
inductive Json where
  /-- The value `null`. -/
  | null
  /-- A boolean. -/
  | bool (b : Bool)
  /-- A number. -/
  | number (n : Number)
  /-- A text. -/
  | string (s : String)
  /-- A sequence. -/
  | array (items : List Json)
  /-- An object, its fields in ascending order of their names. -/
  | object (fields : List (String × Json))

instance : Inhabited Json := ⟨.null⟩

namespace Fields

/-- The value of a field. -/
def get? (name : String) : List (String × α) → Option α
  | [] => none
  | (k, v) :: rest => if k = name then some v else get? name rest

/-- Sets a field, in place when the name is there and else where the order of names puts it. -/
def insert (name : String) (value : α) : List (String × α) → List (String × α)
  | [] => [(name, value)]
  | (k, v) :: rest =>
    if name = k then (name, value) :: rest
    else if name < k then (name, value) :: (k, v) :: rest
    else (k, v) :: insert name value rest

/-- The fields of a list of pairs; of two pairs with one name the later counts. -/
def ofList (pairs : List (String × α)) : List (String × α) :=
  pairs.foldl (fun acc p => insert p.1 p.2 acc) []

/-- Removes a field. -/
def erase (name : String) (fields : List (String × α)) : List (String × α) :=
  fields.filter fun p => p.1 ≠ name

@[simp] theorem get?_nil (name : String) : get? (α := α) name [] = none := rfl

/-- A field that was set has the value it was set to. -/
@[simp] theorem get?_insert_self (name : String) (value : α) (fields : List (String × α)) :
    get? name (insert name value fields) = some value := by
  induction fields with
  | nil => simp [insert, get?]
  | cons p rest ih =>
    obtain ⟨k, v⟩ := p
    unfold insert
    split
    · simp [get?]
    · split
      · simp [get?]
      · rename_i hne _
        simp [get?, Ne.symm hne, ih]

/-- Setting a field leaves every other field as it was. -/
theorem get?_insert_of_ne {name other : String} (h : other ≠ name) (value : α)
    (fields : List (String × α)) : get? other (insert name value fields) = get? other fields := by
  induction fields with
  | nil => simp [insert, get?, Ne.symm h]
  | cons p rest ih =>
    obtain ⟨k, v⟩ := p
    unfold insert
    split
    · rename_i hk
      subst hk
      simp [get?, Ne.symm h]
    · split
      · simp [get?, Ne.symm h]
      · simp [get?, ih]

end Fields

namespace Json

/-- The object with the given fields. -/
def ofFields (pairs : List (String × Json)) : Json :=
  .object (Fields.ofList pairs)

/-- The integer as a JSON number. -/
def ofNat (n : Nat) : Json :=
  .number (.int n)

/-- The field of an object; nothing for a value of any other form. -/
def field? (name : String) : Json → Option Json
  | .object fields => Fields.get? name fields
  | _ => none

/-- The text of a string value. -/
def text? : Json → Option String
  | .string s => some s
  | _ => none

/-- The items of an array. -/
def items? : Json → Option (List Json)
  | .array items => some items
  | _ => none

/-- An optional text, `null` when missing. -/
def ofText? : Option String → Json
  | some s => .string s
  | none => .null

end Json

end ClusterFleet
