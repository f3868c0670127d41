import ClusterFleet.Time.Instant

/-!
# Objects — status conditions

A condition says of one aspect of an object whether it holds, since when and why. A list of
conditions is edited so that transition times of one type never go back.
-/

namespace ClusterFleet

/-- Whether a condition holds. -/
inductive ConditionStatus where
  /-- It holds. -/
  | holds
  /-- It does not hold. -/
  | fails
  /-- It is not known. -/
  | unknown
  deriving DecidableEq, Repr, Inhabited

/-- The text of a condition status. -/
def ConditionStatus.text : ConditionStatus → String
  | .holds => "True"
  | .fails => "False"
  | .unknown => "Unknown"

theorem ConditionStatus.text_inj {a b : ConditionStatus} : a.text = b.text ↔ a = b := by
  cases a <;> cases b <;> decide

/-- One condition of an object. -/
structure Condition where
  /-- The aspect that the condition is about. -/
  type : String
  /-- Whether it holds. -/
  status : ConditionStatus
  /-- The reason, one word. -/
  reason : String
  /-- The reason, for people. -/
  message : String
  /-- Since when the status has been what it is. -/
  since : Instant
  deriving DecidableEq

namespace Condition

/-- The first condition of a type. -/
def find? (type : String) (conditions : List Condition) : Option Condition :=
  conditions.find? fun c => c.type = type

/-- Whether the first condition of a type holds. -/
def isTrue (type : String) (conditions : List Condition) : Bool :=
  match find? type conditions with
  | some c => c.status = .holds
  | none => false

/-- The condition that takes the place of an existing one of its type. An unchanged status keeps
its time; a changed one takes the desired time if that is later, and otherwise the time one
microsecond after the existing one, if the calendar has it. -/
def merge (existing desired : Condition) : Option Condition :=
  if existing.status = desired.status then some { desired with since := existing.since }
  else if existing.since < desired.since then some desired
  else (existing.since.addMicrosecond).map fun t => { desired with since := t }

/-- Sets a condition: the first of its type is merged with it in place, and where there is none it
goes to the end. There is no result if the new transition time is beyond the calendar. -/
def set (desired : Condition) : List Condition → Option (List Condition)
  | [] => some [desired]
  | c :: rest =>
    if c.type = desired.type then (merge c desired).map (· :: rest)
    else (set desired rest).map (c :: ·)

/-- Drops every condition of a type. -/
def remove (type : String) (conditions : List Condition) : List Condition :=
  conditions.filter fun c => c.type ≠ type

end Condition

end ClusterFleet
