import ClusterFleet.Object.Condition

/-!
# Objects — conditions edited in place

The edits of a list of conditions as they are carried out: on the list itself, field after field.
An edit says whether it has changed the list. One that breaks off leaves whatever the list has come
to by then.
-/

namespace ClusterFleet

/-- Why an edit breaks off. -/
inductive EditFault where
  /-- A transition time would lie beyond the calendar. -/
  | beyondCalendar
  deriving DecidableEq, Repr

/-- An edit in place. It gives a result or breaks off, and leaves its object in some state either
way. -/
abbrev InPlace (σ α : Type) := EStateM EditFault σ α

/-- How an edit ends, and what it leaves. -/
abbrev EditEnd (σ α : Type) := EStateM.Result EditFault σ α

namespace EditEnd

variable {σ τ α : Type}

/-- What an edit has left. -/
def left : EditEnd σ α → σ
  | .ok _ content => content
  | .error _ content => content

/-- The end of the edit of a part, as that of an edit of the whole in which the part stands. -/
def within (whole : σ → τ) : EditEnd σ α → EditEnd τ α
  | .ok a part => .ok a (whole part)
  | .error fault part => .error fault (whole part)

end EditEnd

namespace Condition

/-- The time since which a condition has a status that it had not before: the desired time if that
is later than the time it has, and otherwise one microsecond after the latter. -/
def transitionTime (desired : Condition) : InPlace Condition Instant := do
  let existing ← get
  if existing.since < desired.since then return desired.since
  else match existing.since.addMicrosecond with
    | some later => return later
    | none => throw .beyondCalendar

/-- Writes a field unless it says so already. The result is whether it was written. -/
def writeField (saysSo : Condition → Bool) (write : Condition → Condition) :
    InPlace Condition Bool := do
  if saysSo (← get) then return false
  else
    modify write
    return true

/-- Makes a condition say what another one says. The result is whether that has changed it. A time
that goes with a new status is worked out before any field is written. -/
def overwrite (desired : Condition) : InPlace Condition Bool := do
  let existing ← get
  if existing.status ≠ desired.status then
    let since ← transitionTime desired
    modify fun c => { c with status := desired.status }
    modify fun c => { c with reason := desired.reason }
    modify fun c => { c with message := desired.message }
    modify fun c => { c with since := since }
    return true
  else
    let reason ← writeField (fun c => c.reason = desired.reason)
      fun c => { c with reason := desired.reason }
    let message ← writeField (fun c => c.message = desired.message)
      fun c => { c with message := desired.message }
    return reason || message

/-- Sets a condition in place: the first of its type is overwritten, and where there is none it is
put at the end. The result is whether the list has changed. -/
def setInPlace (desired : Condition) : InPlace (List Condition) Bool
  | [] => .ok true [desired]
  | c :: rest =>
    if c.type = desired.type then EditEnd.within (· :: rest) (overwrite desired c)
    else EditEnd.within (c :: ·) (setInPlace desired rest)

/-- Drops every condition of a type in place. The result is whether the list has changed. -/
def removeInPlace (type : String) : InPlace (List Condition) Bool := do
  let before := (← get).length
  modify (remove type)
  return (← get).length ≠ before

end Condition

end ClusterFleet
