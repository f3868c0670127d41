import ClusterFleet.Hub.Policy
import ClusterFleet.Hub.Program

/-!
# Hub — status updates

An update reads the object, applies its mutations to the conditions it read, and writes the result
if it differs. A write that lost against another writer starts the whole cycle again, as often as
the policy allows and until the deadline; every other error ends the update.
-/

namespace ClusterFleet

/-- Why a mutation gave no conditions. -/
inductive Refusal where
  /-- The mutation refuses with an error. -/
  | error (e : StoreError)
  /-- A transition time would lie beyond the calendar. -/
  | beyondCalendar
  deriving DecidableEq, Repr

/-- An edit of a list of conditions. Each attempt of an update applies it anew. -/
abbrev Mutation := List Condition → Except Refusal (List Condition)

namespace Mutation

/-- Sets a condition. -/
def set (desired : Condition) : Mutation := fun conditions =>
  match Condition.set desired conditions with
  | some changed => .ok changed
  | none => .error .beyondCalendar

/-- Applies mutations one after another. -/
def applyAll : List Mutation → Mutation
  | [], conditions => .ok conditions
  | m :: rest, conditions =>
    match m conditions with
    | .ok changed => applyAll rest changed
    | .error refusal => .error refusal

end Mutation

/-- What an update ended in. -/
structure UpdateResult where
  /-- The conditions after the mutations; after a write, those that were stored. -/
  conditions : List Condition
  /-- Whether there was a write. -/
  updated : Bool
  deriving DecidableEq

namespace StatusUpdate

open Program

/-- One cycle of reading, mutating and writing; `lost` goes on after a write that lost against
another writer. -/
def cycle (kind : Kind) (key : Key) (mutations : List Mutation)
    (lost : Unit → Program (Except StoreError UpdateResult)) :
    Program (Except StoreError UpdateResult) :=
  call (.get kind key) fun
    | .error e => done (.error e)
    | .ok none => done (.error (.notFound kind key))
    | .ok (some object) =>
      match Mutation.applyAll mutations object.conditions with
      | .error (.error e) => done (.error e)
      | .error .beyondCalendar => abort
      | .ok conditions =>
        if conditions = object.conditions then done (.ok ⟨conditions, false⟩)
        else call (.updateStatus kind { object with conditions := conditions }) fun
          | .ok written =>
            call (.count .updateWrites) fun _ => done (.ok ⟨written.conditions, true⟩)
          | .error e =>
            if e.isConflict then call (.count .updateConflicts) fun _ => lost ()
            else done (.error e)

/-- Waits after the given attempt, as long as the policy says, and goes on; the deadline may cut
the wait short. -/
def backOff (kind : Kind) (key : Key) (policy : RetryPolicy) (deadline : Option Moment)
    (attempt : Nat) (again : Unit → Program (Except StoreError UpdateResult)) :
    Program (Except StoreError UpdateResult) :=
  call (.draw policy.jitter) fun drawn =>
    sleep (policy.delay attempt drawn) deadline fun slept =>
      if slept then again ()
      else call (.count .updateDeadlines) fun _ => done (.error (.deadlineExceeded kind key))

/-- The attempts from the given one on, with a bound on how many more may follow it. -/
def attempts (kind : Kind) (key : Key) (mutations : List Mutation) (policy : RetryPolicy)
    (deadline : Option Moment) (attempt : Nat) : Nat → Program (Except StoreError UpdateResult)
  | 0 => cycle kind key mutations fun _ => done (.error (.exhausted kind key attempt))
  | left + 1 =>
    cycle kind key mutations fun _ =>
      backOff kind key policy deadline attempt fun _ =>
        attempts kind key mutations policy deadline (attempt + 1) left

/-- Updates the status of an object by mutations. -/
def run (kind : Kind) (key : Key) (mutations : List Mutation) (policy : RetryPolicy)
    (deadline : Option Moment) : Program (Except StoreError UpdateResult) :=
  attempts kind key mutations policy deadline 1 (policy.attempts - 1)

/-- Sets one condition on a cluster set, a managed cluster or an add-on. -/
def setCondition (kind : Kind) (key : Key) (desired : Condition) (policy : RetryPolicy) :
    Program (Except StoreError UpdateResult) :=
  run kind key [Mutation.set desired] policy none

end StatusUpdate

end ClusterFleet
