import ClusterFleet.Hub.Event
import ClusterFleet.Hub.Membership
import ClusterFleet.Object.Resource
import ClusterFleet.Store.Error
import ClusterFleet.Time.Instant
import ClusterFleet.Time.Span

/-!
# Hub — programs

What the parts of a hub do, one request after another. A program asks its surroundings through
calls that are answered at once, and waits in two ways only: for time to pass, and for a key from
the work queue. Between two requests nothing else is done, so what other programs do falls between
the requests of this one; a schedule, or a proof about all schedules, says where.
-/

namespace ClusterFleet

/-- A request that is answered at once. -/
inductive Call where
  /-- Read one object. -/
  | get (kind : Kind) (key : Key)
  /-- Read all objects of a kind. -/
  | list (kind : Kind)
  /-- Write the status of an object. -/
  | updateStatus (kind : Kind) (object : Resource)
  /-- Point the selected members at a set in the cache. -/
  | rebuild (set : String) (selected : List String) (prune : Bool)
  /-- Look a member up in the cache. -/
  | cached (member : String)
  /-- Drop a member from the cache, and say where it was. -/
  | forget (member : String)
  /-- Tell an event. -/
  | record (event : Event)
  /-- Count. -/
  | count (counter : Counter)
  /-- The moment on the clock of timers. -/
  | clock
  /-- The instant on the calendar. -/
  | calendar
  /-- A number drawn at random, from zero up to the given bound. -/
  | draw (bound : Float)
  /-- Add a key to the queue. -/
  | add (key : Key)
  /-- Add a key to the queue after a while. -/
  | addAfter (key : Key) (delay : Span)
  /-- End the work on a key. -/
  | release (key : Key)
  /-- Note a failure of a key, and say how many there were before it in a row. -/
  | failed (key : Key)
  /-- Forget the failures of a key. -/
  | settled (key : Key)

/-- The type of the answer to a call. -/
def Call.Answer : Call → Type
  | .get .. => Except StoreError (Option Resource)
  | .list _ => Except StoreError (List Resource)
  | .updateStatus .. => Except StoreError Resource
  | .rebuild .. => Churn
  | .cached _ => Option String
  | .forget _ => Option String
  | .clock => Moment
  | .calendar => Instant
  | .draw _ => Float
  | .failed _ => Nat
  | .record _ | .count _ | .add _ | .addAfter .. | .release _ | .settled _ => Unit

/-- A program with a result. -/
inductive Program (α : Type) where
  /-- It has ended. -/
  | done (a : α)
  /-- It is broken off without a result. -/
  | abort
  /-- It makes a call and goes on with the answer. -/
  | call (c : Call) (next : c.Answer → Program α)
  /-- It waits for a while, and goes on with whether the wait ended before the deadline. -/
  | sleep (delay : Span) (deadline : Option Moment) (next : Bool → Program α)
  /-- It waits for a key from the queue; there is none when the queue is closed and empty. -/
  | take (next : Option Key → Program α)

namespace Program

/-- Does one program after another. -/
def bind : Program α → (α → Program β) → Program β
  | done a, f => f a
  | abort, _ => abort
  | call c next, f => call c fun a => (next a).bind f
  | sleep delay deadline next, f => sleep delay deadline fun slept => (next slept).bind f
  | take next, f => take fun key => (next key).bind f

instance : Monad Program where
  pure := done
  bind := bind

/-- The program of a single call. -/
def ask (c : Call) : Program c.Answer :=
  call c done

/-- Does something for each item of a list. -/
def each (f : α → Program Unit) : List α → Program Unit
  | [] => done ()
  | a :: rest => (f a).bind fun _ => each f rest

@[simp] theorem bind_done (a : α) (f : α → Program β) : (done a).bind f = f a := rfl

/-- Ending with the result changes nothing. -/
@[simp] theorem bind_done_right (p : Program α) : p.bind done = p := by
  induction p with
  | done a => rfl
  | abort => rfl
  | call c next ih => simp only [bind, ih]
  | sleep delay deadline next ih => simp only [bind, ih]
  | take next ih => simp only [bind, ih]

end Program

end ClusterFleet
