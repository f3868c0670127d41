import ClusterFleet.Hub.Program
import ClusterFleet.Hub.WorkQueue
import ClusterFleet.Store.Memory

/-!
# Hub — state

All that the programs of a hub share: the store, the membership cache, the work queue with its
failures and delayed additions, the events and counters, and the two clocks. `Hub.answer` says
what each call does to it. `Hub.runAlone` runs one program with nothing between its calls, so that
time passes only where the program waits.
-/

namespace ClusterFleet

/-- A store as programs see it: what answers the three requests on objects. -/
class Authority (σ : Type) where
  /-- Reads one object. -/
  get : Kind → Key → σ → Except StoreError (Option Resource) × σ
  /-- Reads all objects of a kind. -/
  list : Kind → σ → Except StoreError (List Resource) × σ
  /-- Writes the status of an object. -/
  updateStatus : Kind → Resource → σ → Except StoreError Resource × σ
  /-- What the store itself has counted. -/
  counts : σ → Counts

instance : Authority MemoryStore where
  get := MemoryStore.get
  list := MemoryStore.list
  updateStatus := MemoryStore.updateStatus
  counts s := Counts.add .memoryWrites s.statusWrites []

/-- An addition to the queue that waits for its time. -/
structure Delayed where
  /-- The key to add. -/
  key : Key
  /-- When to add it. -/
  due : Moment
  /-- The number of the timer; timers of one tick go off in the order of their numbers. -/
  timer : Nat
  deriving DecidableEq, Repr

/-- The state of a hub. -/
structure Hub (σ : Type) where
  /-- The store. -/
  store : σ
  /-- The membership cache. -/
  cache : Membership
  /-- The events told so far, oldest first. -/
  events : List Event
  /-- The counters of the programs. -/
  counts : Counts
  /-- The clock of timers. -/
  clock : Moment
  /-- The reading of the calendar before the next one. -/
  calendar : Instant
  /-- The work queue. -/
  queue : WorkQueue
  /-- The number of failures in a row of each key that has failed last. -/
  failures : List (Key × Nat)
  /-- The additions to the queue that wait for their time. -/
  delayed : List Delayed
  /-- The number of timers set so far. -/
  timers : Nat

namespace Hub

variable {σ : Type}

/-- A hub over a store, where nothing has happened yet. -/
def start (store : σ) (capacity : Nat) (calendar : Instant) : Hub σ :=
  ⟨store, .empty, [], [], .start, calendar, .withCapacity capacity, [], [], 0⟩

/-- Reads the calendar. Each reading is later than the one before, as far as the calendar goes. -/
def readCalendar (h : Hub σ) : Instant × Hub σ :=
  let now := h.calendar.addMicrosecond.getD h.calendar
  (now, { h with calendar := now })

/-- The number of failures in a row of a key. -/
def failuresOf (h : Hub σ) (key : Key) : Nat :=
  ((h.failures.find? fun p => p.1 = key).map (·.2)).getD 0

/-- Forgets the failures of a key. -/
def forgetFailures (key : Key) (h : Hub σ) : Hub σ :=
  { h with failures := h.failures.filter fun p => p.1 ≠ key }

/-- Notes one more failure of a key. -/
def noteFailure (key : Key) (h : Hub σ) : Hub σ :=
  { h with failures := (key, h.failuresOf key + 1) :: (h.forgetFailures key).failures }

/-- Adds a key to the queue. -/
def add (key : Key) (h : Hub σ) : Hub σ :=
  { h with queue := h.queue.add key }

/-- Adds a key to the queue after a delay, at once if there is none. -/
def addAfter (key : Key) (delay : Span) (h : Hub σ) : Hub σ :=
  if delay = Span.zero then h.add key
  else
    { h with
      delayed := h.delayed ++ [⟨key, h.clock.after delay, h.timers⟩]
      timers := h.timers + 1 }

/-- All counters, those of the store and of the queue among them. -/
def allCounts [Authority σ] (h : Hub σ) : Counts :=
  h.counts ++ Authority.counts h.store ++ Counts.add .queueDrops h.queue.dropped []

/-- Answers a call. -/
def answer [Authority σ] : (c : Call) → Hub σ → c.Answer × Hub σ
  | .get kind key, h =>
    let (found, store) := Authority.get kind key h.store
    (found, { h with store := store })
  | .list kind, h =>
    let (found, store) := Authority.list kind h.store
    (found, { h with store := store })
  | .updateStatus kind object, h =>
    let (written, store) := Authority.updateStatus kind object h.store
    (written, { h with store := store })
  | .rebuild set selected prune, h =>
    let (churn, cache) := h.cache.rebuild set selected prune
    (churn, { h with cache := cache })
  | .cached member, h => (h.cache.get? member, h)
  | .forget member, h => (h.cache.get? member, { h with cache := h.cache.forget member })
  | .record event, h => ((), { h with events := h.events ++ [event] })
  | .count counter, h => ((), { h with counts := h.counts.bump counter })
  | .clock, h => (h.clock, h)
  | .calendar, h => h.readCalendar
  | .draw _, h => ((0.0 : Float), h)
  | .add key, h => ((), h.add key)
  | .addAfter key delay, h => ((), h.addAfter key delay)
  | .release key, h => ((), { h with queue := h.queue.done key })
  | .failed key, h => (h.failuresOf key, h.noteFailure key)
  | .settled key, h => ((), h.forgetFailures key)

/-- How a program that runs alone ends. -/
inductive Ending (α : Type) where
  /-- With a result. -/
  | result (a : α)
  /-- Broken off. -/
  | aborted
  /-- It waits for a key that nobody will add. -/
  | stuck

/-- Where a wait that begins now ends, and whether that is before the deadline. A wait that ends
with the deadline still counts as before it. -/
def wait (clock : Moment) (delay : Span) (deadline : Option Moment) : Bool × Moment :=
  let wake := (clock.after delay).tick
  let now := clock.tick
  if wake ≤ now then (true, clock)
  else match deadline with
    | none => (true, Moment.ofTick wake)
    | some limit =>
      if wake ≤ limit.tick then (true, Moment.ofTick wake)
      else (false, if limit.tick ≤ now then clock else Moment.ofTick limit.tick)

/-- Runs a program with nothing between its calls. -/
def runAlone [Authority σ] : Program α → Hub σ → Ending α × Hub σ
  | .done a, h => (.result a, h)
  | .abort, h => (.aborted, h)
  | .call c next, h =>
    let (a, h) := h.answer c
    runAlone (next a) h
  | .sleep delay deadline next, h =>
    let waited := wait h.clock delay deadline
    runAlone (next waited.1) { h with clock := waited.2 }
  | .take next, h =>
    match h.queue.pop with
    | (.key key, queue) => runAlone (next (some key)) { h with queue := queue }
    | (.closed, _) => runAlone (next none) h
    | (.wait, _) => (.stuck, h)

end Hub

end ClusterFleet
