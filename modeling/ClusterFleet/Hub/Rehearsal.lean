import ClusterFleet.Hub.Schedule

/-!
# Hub — rehearsals

A rehearsal takes steps on one hub over a store in memory, with the clock standing still unless a
step lets it run. It can play the other writers too: those that change objects in the store between
the steps, and those that strike between the read and the write of an update.
-/

namespace ClusterFleet

/-- What another writer does to an object while an update of it is under way. -/
structure Race where
  /-- In how many of the first attempts it strikes. -/
  times : Nat
  /-- Whether it removes the object. -/
  remove : Bool
  /-- The condition that it sets, if it does not remove the object. -/
  condition : Option Condition

/-- One item of an update that is rehearsed. -/
inductive Trial where
  /-- A mutation. -/
  | mutation (m : Mutation)
  /-- Another writer strikes when the update comes to this item. -/
  | race (r : Race)

namespace Trial

/-- The mutations among the items. -/
def mutations (trials : List Trial) : List Mutation :=
  trials.filterMap fun
    | .mutation m => some m
    | .race _ => none

/-- The conditions with one set, as they are if it cannot be. -/
def setIfPossible (desired : Condition) (conditions : List Condition) : List Condition :=
  (Condition.set desired conditions).getD conditions

/-- What one writer does to the store. -/
def strike (kind : Kind) (key : Key) (r : Race) (store : MemoryStore) : MemoryStore :=
  if r.remove then (store.remove kind key).2
  else
    let change (object : Resource) : Resource := match r.condition with
      | some c => { object with conditions := setIfPossible c object.conditions }
      | none => object
    (store.modify kind key change).2

/-- What the other writers do to the store in one attempt. Items after a mutation that refuses are
never come to. -/
def strikes (kind : Kind) (key : Key) (attempt : Nat) :
    List Trial → List Condition → MemoryStore → MemoryStore
  | [], _, store => store
  | .race r :: rest, conditions, store =>
    let store := if attempt ≤ r.times then strike kind key r store else store
    strikes kind key attempt rest conditions store
  | .mutation m :: rest, conditions, store =>
    match m conditions with
    | .ok changed => strikes kind key attempt rest changed store
    | .error _ => store

end Trial

/-- A hub in rehearsal. -/
abbrev Stage := Schedule MemoryStore

namespace Schedule

/-- More turns than any rehearsal takes. -/
def turns : Nat := Nat.pow 10 15

/-- The hub before the first step. -/
def rehearse (settings : Settings) (calendar : Instant) : Stage :=
  start (Hub.start .empty settings.queueCapacity calendar) settings

/-- Runs a program in front, for at most the given span. -/
def perform (limit : Option Span) (p : Program α) (s : Stage) : Ending α × Stage :=
  s.drive (limit.map fun span => (s.hub.clock.after span).tick) turns (.fresh p)

/-- The milliseconds that passed between two stages. -/
def elapsed (before after : Stage) : Nat :=
  (after.hub.clock.since before.hub.clock).millis

/-- Lets every task that is ready run, without letting the clock run. -/
def settled (s : Stage) : Stage :=
  s.settle turns

/-- Changes the store. -/
def onStore (f : MemoryStore → α × MemoryStore) (s : Stage) : α × Stage :=
  let (a, store) := f s.hub.store
  (a, { s with hub := { s.hub with store := store } })

/-- Runs a program in front while other writers strike after each of its reads. -/
def performRaced (kind : Kind) (key : Key) (trials : List Trial) (attempt : Nat) :
    Program α → Stage → Ending α × Stage
  | .done a, s => (.result a, s)
  | .abort, s => (.aborted, s)
  | .call (.get k name) next, s =>
    let (found, s) := s.answer (.get k name)
    match (found : Except StoreError (Option Resource)) with
    | .ok (some object) =>
      let (_, s) := s.onStore fun store =>
        ((), Trial.strikes kind key attempt trials object.conditions store)
      performRaced kind key trials (attempt + 1) (next (.ok (some object))) s
    | other => performRaced kind key trials (attempt + 1) (next other) s
  | .call c next, s =>
    let (a, s) := s.answer c
    performRaced kind key trials attempt (next a) s
  | .sleep delay deadline next, s =>
    match s.perform none (.sleep delay deadline .done) with
    | (.result slept, s) => performRaced kind key trials attempt (next slept) s
    | (_, s) => (.stuck, s)
  | .take _, s => (.stuck, s)

/-- The deadline a span from now, if there is one; none if the clock does not reach it. -/
def deadlineIn (s : Stage) : Option Span → Option (Option Moment)
  | none => some none
  | some span => (s.hub.clock.after? span).map some

/-- Updates the status of an object by the mutations among some items, while the writers among them
strike. -/
def mutate (kind : Kind) (key : Key) (trials : List Trial) (policy : RetryPolicy)
    (limit : Option Span) (s : Stage) : Ending (Except StoreError UpdateResult) × Stage :=
  match s.deadlineIn limit with
  | none => (.aborted, s)
  | some deadline =>
    s.performRaced kind key trials 1
      (StatusUpdate.run kind key (Trial.mutations trials) policy deadline)

/-- Reconciles a set. -/
def reconcile (key : Key) (limit : Option Span) (s : Stage) :
    Ending (Except StoreError SyncOutcome) × Stage :=
  match s.deadlineIn limit with
  | none => (.aborted, s)
  | some deadline =>
    s.perform none (ClusterSet.reconcile s.settings.prune s.settings.retry deadline key)

/-- Runs a program that waits for nothing, and shows its result. -/
def atOnce (p : Program α) (s : Stage) : Option α × Stage :=
  match s.run .front p with
  | (.finished a, s) => (some a, s)
  | (_, s) => (none, s)

/-- Lets the clock run for a span, and then every task that is ready. -/
def advance (span : Span) (s : Stage) : Stage :=
  let (_, s) := s.perform none (.sleep span none .done)
  s.settled

/-- Starts a task that takes one key. -/
def spawnTaker (s : Stage) : Stage :=
  (s.spawn (.taker (.fresh (.take .done)))).settled

/-- What the tasks that take one key have come to, from the given task on: nothing yet, or the key
they got, if they got one. -/
def takers (first : Nat) (s : Stage) : List (Option (Option Key)) :=
  s.tasks.filterMap fun t => match t.errand with
    | .taker p =>
      if t.id < first then none
      else match p with
        | .finished key => some (some key)
        | _ => some none
    | _ => none

/-- Starts the runner behind the front. -/
def startRunner (s : Stage) : Stage :=
  ({ s with ready := s.ready ++ [.begin] } : Stage).settled

/-- Waits until the runner has ended, for at most the given span. -/
def join (limit : Span) (s : Stage) : Bool × Stage :=
  s.driveRunner (s.hub.clock.after limit).tick turns

/-- Shuts the queue down and wakes all who wait for a key. -/
def shutdown (s : Stage) : Stage :=
  ({ s with hub := { s.hub with queue := s.hub.queue.shutdown } } : Stage).announceAll

end Schedule

end ClusterFleet
