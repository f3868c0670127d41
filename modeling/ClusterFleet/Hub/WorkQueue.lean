import ClusterFleet.Object.Key

/-!
# Hub — the work queue

Keys waiting for a worker, in the order they came. A key waits at most once. A key in the hands of
a worker is not handed out again before it is done: an addition meanwhile is remembered, and done
puts the key back into the queue. A full queue drops its oldest key. A closed queue takes no more
keys and hands out those it has.
-/

namespace ClusterFleet

/-- A queue of keys. -/
structure WorkQueue where
  /-- The number of keys that may wait. -/
  capacity : Nat
  /-- The keys that wait, oldest first. -/
  order : List Key
  /-- The keys that wait, as a set. -/
  queued : List Key
  /-- The keys in the hands of workers. -/
  processing : List Key
  /-- The keys in the hands of workers that were added again meanwhile. -/
  dirty : List Key
  /-- The number of keys dropped so far. -/
  dropped : Nat
  /-- Whether the queue was shut down. -/
  closed : Bool
  deriving DecidableEq, Repr

namespace WorkQueue

/-- An empty queue with room for at least one key. -/
def withCapacity (n : Nat) : WorkQueue :=
  ⟨Nat.max n 1, [], [], [], [], 0, false⟩

/-- The number of keys that wait. -/
def size (q : WorkQueue) : Nat := q.order.length

/-- Adds a key to a set of keys. -/
def withKey (key : Key) (keys : List Key) : List Key :=
  if key ∈ keys then keys else key :: keys

/-- Removes a key from a set of keys. -/
def withoutKey (key : Key) (keys : List Key) : List Key :=
  keys.filter fun k => k ≠ key

/-- Drops the oldest key of a full queue. -/
def makeRoom (q : WorkQueue) : WorkQueue :=
  if q.capacity ≤ q.order.length then
    match q.order with
    | [] => q
    | oldest :: rest =>
      { q with order := rest, queued := withoutKey oldest q.queued, dropped := q.dropped + 1 }
  else q

/-- Puts a key at the end of the queue. -/
def enqueue (key : Key) (q : WorkQueue) : WorkQueue :=
  let q := q.makeRoom
  { q with order := q.order ++ [key], queued := withKey key q.queued }

/-- Whether adding a key puts it at the end of the queue. -/
def accepts (q : WorkQueue) (key : Key) : Bool :=
  !q.closed && !(key ∈ q.queued) && !(key ∈ q.processing)

/-- Adds a key. -/
def add (key : Key) (q : WorkQueue) : WorkQueue :=
  if q.accepts key then q.enqueue key
  else if !q.closed && !(key ∈ q.queued) then { q with dirty := withKey key q.dirty }
  else q

/-- What a worker that asks for a key gets. -/
inductive Delivery where
  /-- A key to work on. -/
  | key (k : Key)
  /-- Nothing, and there will be nothing. -/
  | closed
  /-- Nothing yet. -/
  | wait
  deriving DecidableEq, Repr

/-- Hands out the oldest key. -/
def pop (q : WorkQueue) : Delivery × WorkQueue :=
  match q.order with
  | key :: rest =>
    (.key key,
     { q with
        order := rest
        queued := withoutKey key q.queued
        processing := withKey key q.processing })
  | [] => (if q.closed then .closed else .wait, q)

/-- Whether the end of the work on a key puts it back into the queue. -/
def requeues (q : WorkQueue) (key : Key) : Bool :=
  key ∈ q.dirty && !q.closed

/-- Ends the work on a key. -/
def done (key : Key) (q : WorkQueue) : WorkQueue :=
  let rest :=
    { q with processing := withoutKey key q.processing, dirty := withoutKey key q.dirty }
  if q.requeues key then rest.enqueue key else rest

/-- Shuts the queue down. -/
def shutdown (q : WorkQueue) : WorkQueue :=
  { q with closed := true }

end WorkQueue

end ClusterFleet
