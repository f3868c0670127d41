import ClusterFleet.Hub.ClusterSet
import ClusterFleet.Hub.Settings

/-!
# Hub — the runner

Drives the reconciliation of sets from the work queue: changes put keys into the queue, workers
take them out, and a key whose work failed comes back after a delay that doubles with each failure
in a row. An error that no repetition can mend is not repeated.
-/

namespace ClusterFleet

namespace Runner

open Program

/-- The greatest number of doublings. -/
def maxDoublings : Nat := 30

/-- The delay before a key is queued again that had failed `failures` times before in a row. -/
def requeueDelay (settings : Settings) (failures : Nat) : Span :=
  (settings.requeueBase.scale (Nat.pow 2 (Nat.min failures maxDoublings))).shorter settings.requeueMax

/-- Adds the sets that a change of a member concerns. -/
def onMember (change : Change) : Program Unit :=
  (ClusterSet.concernedBy change).bind (each fun key => ask (.add key))

/-- Adds a set that changed. A set that is gone needs no work. -/
def onSet : Change → Program Unit
  | .applied set => ask (.add set.key)
  | .deleted _ => done ()

/-- The deadline of work that begins now. A deadline beyond the range of the clock breaks the work
off. -/
def withDeadline (timeout : Option Span) (work : Option Moment → Program α) : Program α :=
  match timeout with
  | none => work none
  | some span => call .clock fun (now : Moment) =>
    match now.after? span with
    | some deadline => work (some deadline)
    | none => abort

/-- What follows the work on a key: after a failure that may mend, the key is queued again later. -/
def afterSync (settings : Settings) (key : Key) : Except StoreError SyncOutcome → Program Unit
  | .ok _ => ask (.settled key)
  | .error e =>
    if e.isRetryable then
      call (.failed key) fun failures =>
        call (.count .requeues) fun _ => ask (.addAfter key (requeueDelay settings failures))
    else ask (.settled key)

/-- Works on the next key. The result is whether there was one. -/
def processNext (settings : Settings) : Program Bool :=
  take fun
    | none => done false
    | some key =>
      withDeadline settings.syncTimeout fun deadline =>
        (ClusterSet.reconcile settings.prune settings.retry deadline key).bind fun result =>
          (afterSync settings key result).bind fun _ =>
            call (.release key) fun _ => done true

/-- Adds every set of the store. -/
def resync : Program Unit :=
  ClusterSet.all.bind fun
    | .ok keys => each (fun key => ask (.add key)) keys
    | .error _ => done ()

end Runner

end ClusterFleet
