/-!
# Hub — events and counters

What a hub tells of its work: events for people, and counters of what happened how often.
-/

namespace ClusterFleet

/-- Something worth telling. -/
structure Event where
  /-- What happened, one word. -/
  reason : String
  /-- What happened, for people. -/
  message : String
  /-- Whether it is a warning. -/
  warning : Bool
  deriving DecidableEq, Repr

/-- How a log shows an event. -/
structure LogLine where
  /-- The level. -/
  level : String
  /-- The part of the program that speaks. -/
  component : String
  /-- What happened, one word. -/
  reason : String
  /-- What happened, for people. -/
  message : String
  deriving DecidableEq, Repr

/-- The log line of an event: a warning is logged as such. -/
def Event.logLine (component : String) (e : Event) : LogLine :=
  ⟨if e.warning then "WARN" else "INFO", component, e.reason, e.message⟩

/-- What is counted. -/
inductive Counter where
  /-- Work begun on a set. -/
  | syncs
  /-- Work on a set that failed. -/
  | syncErrors
  /-- Measured durations of work on a set. -/
  | syncLatency
  /-- Keys queued again after a failure. -/
  | requeues
  /-- Status updates that were written. -/
  | updateWrites
  /-- Status writes that lost against another writer. -/
  | updateConflicts
  /-- Status updates that the deadline ended. -/
  | updateDeadlines
  /-- Statuses written to the store in memory. -/
  | memoryWrites
  /-- Keys that a full queue dropped. -/
  | queueDrops
  /-- Statuses written to an API server. -/
  | serverWrites
  /-- Errors of a watch. -/
  | watchErrors
  /-- Watched objects that could not be read. -/
  | watchDecodeErrors
  deriving DecidableEq, Repr

/-- The name under which a counter is published. -/
def Counter.name : Counter → String
  | .syncs => "clusterset_sync_total"
  | .syncErrors => "clusterset_sync_errors_total"
  | .syncLatency => "clusterset_sync_latency_ms"
  | .requeues => "clusterset_requeue_total"
  | .updateWrites => "status_update_writes_total"
  | .updateConflicts => "status_update_conflicts_total"
  | .updateDeadlines => "status_update_deadline_total"
  | .memoryWrites => "memstore_status_writes_total"
  | .queueDrops => "workqueue_dropped_total"
  | .serverWrites => "kube_status_writes_total"
  | .watchErrors => "watch_errors_total"
  | .watchDecodeErrors => "watch_decode_errors_total"

/-- How often things happened: each counter that was ever touched with its count. -/
abbrev Counts := List (Counter × Nat)

namespace Counts

/-- The count of a counter. -/
def count (counts : Counts) (c : Counter) : Nat :=
  ((counts.find? fun p => p.1 = c).map (·.2)).getD 0

/-- Adds to a counter; adding nothing does not touch it. -/
def add (c : Counter) (n : Nat) : Counts → Counts
  | [] => if n = 0 then [] else [(c, n)]
  | p :: rest => if p.1 = c then (c, p.2 + n) :: rest else p :: add c n rest

/-- Counts one more. -/
def bump (c : Counter) (counts : Counts) : Counts :=
  add c 1 counts

end Counts

end ClusterFleet
