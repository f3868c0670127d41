import ClusterFleet.Proofs.Queue.Kept

/-!
# The work queue — the ledger

What enters a queue at its end leaves it at its front. `Ledger` keeps the
keys that entered and those that left, each in its order, along a run: a
key enters by an addition that finds it neither waiting nor worked on, or
by the end of the work on it that finds it marked, and it leaves when a
worker gets it or when it makes room for another.

One operation balances (`QueueStep.balanced`): the keys that waited and
the one that enters are those that leave and those that wait then. So
does a run (`Booked.balances`), and `queue_is_accounted_for` reads off
it that keys are handed out in the order in which they entered, that the
others that left were dropped, and that the queue has counted those.
-/

namespace ClusterFleet

/-- How a key leaves the front of a queue. -/
inductive Departure where
  /-- A worker gets it. -/
  | handedOut (key : Key)
  /-- It makes room for another. -/
  | dropped (key : Key)

namespace Departure

/-- The key that leaves. -/
def key : Departure → Key
  | handedOut key | dropped key => key

/-- The key that a worker gets, if one does. -/
def handedOut? : Departure → Option Key
  | handedOut key => some key
  | dropped _ => none

/-- Whether a key is lost. -/
def isDrop : Departure → Bool
  | handedOut _ => false
  | dropped _ => true

end Departure

/-- The key that a worker gets, if one does. -/
def QueueEvent.delivered? : QueueEvent → Option Key
  | .delivered key => some key
  | _ => none

/-- The keys that workers got, in order. -/
def deliveries (events : List QueueEvent) : List Key :=
  events.filterMap QueueEvent.delivered?

namespace WorkQueue

variable {q q' : WorkQueue} {key k : Key} {entered : List Key} {left : List Departure}

/-- What an addition puts into the queue: its key, if the queue is open and
the key neither waits nor is in anybody's hands. -/
def entry (q : WorkQueue) (key : Key) : List Key :=
  if q.closed = false ∧ key ∉ q.queued ∧ key ∉ q.processing then [key] else []

/-- What an operation puts into the queue. -/
def entries (q : WorkQueue) : QueueEvent → List Key
  | .added key | .wentOff key => q.entry key
  | .deferred key delay => if delay = Span.zero then q.entry key else []
  | .finished key => if key ∈ q.dirty ∧ q.closed = false then [key] else []
  | .delivered _ | .refused | .passed | .shutDown => []

/-- The keys that waited and wait no more. -/
def gone (q q' : WorkQueue) : List Key :=
  q.order.filter (· ∉ q'.order)

/-- What leaves the queue in an operation: the key that a worker gets, and
otherwise whatever is gone. -/
def departures (q : WorkQueue) : QueueEvent → WorkQueue → List Departure
  | .delivered key, _ => [.handedOut key]
  | _, q' => (q.gone q').map .dropped

/-- The queue balances: the keys that waited and those that entered are
those that left and those that wait, in this order, and only a full queue
drops a key, and counts it. -/
structure Balanced (q q' : WorkQueue) (entered : List Key) (left : List Departure) : Prop where
  order : q.order ++ entered = left.map Departure.key ++ q'.order
  dropped : q'.dropped = q.dropped + left.countP Departure.isDrop
  full : ∀ key, .dropped key ∈ left → q.capacity ≤ q.order.length

/-! ## One operation -/

theorem gone_of_subset (h : q.order ⊆ q'.order) : q.gone q' = [] := by
  rw [gone, List.filter_eq_nil_iff]
  intro key hkey
  simpa using h hkey

/-- An operation that leaves the waiting keys as they are balances. -/
theorem Balanced.of_same (horder : q'.order = q.order) (hdropped : q'.dropped = q.dropped) :
    Balanced q q' [] ((q.gone q').map .dropped) := by
  have hgone : q.gone q' = [] := gone_of_subset (horder ▸ List.Subset.refl _)
  rw [hgone]
  exact ⟨(List.append_nil _).trans horder.symm, hdropped, fun _ hmem => nomatch hmem⟩

/-- A key at the end of a queue that grew dropped no other. -/
theorem dropped_enqueue_of_order (h : (q.enqueue k).order = q.order ++ [k]) :
    (q.enqueue k).dropped = q.dropped := by
  obtain ⟨heq, -⟩ | ⟨oldest, rest, horder, heq⟩ := makeRoom_cases q
  · change q.makeRoom.dropped = q.dropped
    rw [heq]
  · -- room was made, so the queue did not grow
    rw [enqueue_order, heq, horder] at h
    exact absurd (List.append_cancel_right h) (List.cons_ne_self _ _).symm

/-- **A key that is put at the end** enters, and drops the oldest where
there is no room. -/
theorem Sound.balanced_enqueue (hs : q.Sound) (hidle : k ∉ q.order) :
    Balanced q (q.enqueue k) [k] ((q.gone (q.enqueue k)).map .dropped) := by
  obtain horder | ⟨oldest, rest, horder, horder', hdrops⟩ := hs.enqueue_cases hidle
  · have hgone : q.gone (q.enqueue k) = [] :=
      gone_of_subset (horder ▸ List.subset_append_left _ _)
    rw [hgone]
    exact ⟨horder.symm, dropped_enqueue_of_order horder, fun _ hmem => nomatch hmem⟩
  · have hnodup := hs.nodup
    rw [horder, List.nodup_cons] at hnodup
    have hne : oldest ≠ k := fun heq => hidle (horder ▸ heq ▸ List.mem_cons_self)
    -- of the keys that waited only the oldest does not wait any more
    have hgone : q.gone (q.enqueue k) = [oldest] := by
      rw [gone, horder, horder', List.filter_cons_of_pos (by simp [hnodup.1, hne]),
        List.filter_eq_nil_iff.2 fun key hkey => by simp [hkey]]
    rw [hgone]
    refine ⟨?_, hdrops.counted, fun _ _ => hdrops.full⟩
    rw [horder, horder']
    rfl

theorem Sound.balanced_add (hs : q.Sound) (key : Key) :
    Balanced q (q.add key) (q.entry key) ((q.gone (q.add key)).map .dropped) := by
  unfold entry
  obtain ⟨hrefused, heq⟩ | ⟨-, -, hwork, heq⟩ | ⟨hopen, hqueued, hwork, heq⟩ := add_cases q key <;>
    rw [heq]
  · rw [if_neg]
    · exact .of_same rfl rfl
    · rintro ⟨hopen, hqueued, -⟩
      rcases hrefused with hclosed | hmem
      · exact absurd (hopen.symm.trans hclosed) Bool.false_ne_true
      · exact hqueued hmem
  · rw [if_neg fun hfree => hfree.2.2 hwork]
    exact .of_same rfl rfl
  · rw [if_pos ⟨hopen, hqueued, hwork⟩]
    exact hs.balanced_enqueue fun hwait => hqueued ((hs.mem_queued key).2 hwait)

theorem Sound.balanced_done (hs : q.Sound) (key : Key) :
    Balanced q (q.done key) (if key ∈ q.dirty ∧ q.closed = false then [key] else [])
      ((q.gone (q.done key)).map .dropped) := by
  obtain ⟨hdirty, hopen, heq⟩ | ⟨hclean, heq⟩ := done_cases q key <;> rw [heq]
  · -- letting go of the key leaves the waiting keys alone
    have hidle : key ∉ (q.letGo key).order :=
      fun hwait => hs.not_processing key hwait (hs.dirty_processing key hdirty)
    obtain ⟨horder, hdropped, hfull⟩ := (hs.letGo key).balanced_enqueue hidle
    rw [if_pos ⟨hdirty, hopen⟩]
    exact ⟨horder, hdropped, hfull⟩
  · rw [if_neg]
    · exact .of_same rfl rfl
    · rintro ⟨hdirty, hopen⟩
      rcases hclean with hclean | hclosed
      · exact hclean hdirty
      · exact absurd (hopen.symm.trans hclosed) Bool.false_ne_true

theorem balanced_handedOut {rest : List Key} (horder : q.order = key :: rest) :
    Balanced q (q.handedOut key rest) [] [.handedOut key] :=
  ⟨(List.append_nil _).trans horder, rfl, fun _ hmem => nomatch List.mem_singleton.1 hmem⟩

end WorkQueue

variable {σ : Type} {start h h' : Hub σ} {events : List QueueEvent} {e : QueueEvent} {key : Key}

/-- **Every operation balances.** -/
theorem QueueStep.balanced (step : QueueStep h e h') (hs : h.queue.Sound) :
    WorkQueue.Balanced h.queue h'.queue (h.queue.entries e) (h.queue.departures e h'.queue) := by
  cases step with
  | added key => exact hs.balanced_add key
  | delivered pop =>
    obtain ⟨rest, horder, rfl⟩ := WorkQueue.order_of_pop pop
    exact WorkQueue.balanced_handedOut horder
  | refused pop same =>
    subst same
    rw [queue_of_refused pop]
    exact .of_same rfl rfl
  | finished key => exact hs.balanced_done key
  | deferred key delay =>
    simp only [Hub.addAfter, WorkQueue.entries]
    split
    · exact hs.balanced_add key
    · exact .of_same rfl rfl
  | passed later => exact .of_same rfl rfl
  | wentOff waits due => exact hs.balanced_add _
  | shutDown => exact .of_same rfl rfl

/-! ## A run -/

/-- The books of a queue. -/
structure Ledger where
  /-- The keys that entered, in order. -/
  entries : List Key
  /-- What left, in order. -/
  departures : List Departure

/-- The books after one more operation. -/
def Ledger.post (ledger : Ledger) (q : WorkQueue) (e : QueueEvent) (q' : WorkQueue) : Ledger :=
  ⟨ledger.entries ++ q.entries e, ledger.departures ++ q.departures e q'⟩

/-- A run with its books. -/
inductive Booked (start : Hub σ) : List QueueEvent → Ledger → Hub σ → Prop
  | start : Booked start [] ⟨[], []⟩ start
  | step {events : List QueueEvent} {ledger : Ledger} {h h' : Hub σ} {e : QueueEvent} :
      Booked start events ledger h → QueueStep h e h' →
        Booked start (events ++ [e]) (ledger.post h.queue e h'.queue) h'

variable {ledger : Ledger}

theorem Booked.run (booked : Booked start events ledger h) : QueueRun start events h := by
  induction booked with
  | start => exact .start
  | step _ step ih => exact ih.step step

/-- Books can be kept of every run. -/
theorem QueueRun.booked (run : QueueRun start events h) :
    ∃ ledger, Booked start events ledger h := by
  induction run with
  | start => exact ⟨_, .start⟩
  | step _ step ih =>
    obtain ⟨ledger, booked⟩ := ih
    exact ⟨_, booked.step step⟩

/-- **A run balances**: the keys that waited at its start and those that
entered are those that left and those that wait. -/
theorem Booked.balances (booked : Booked start events ledger h) (hs : start.queue.Sound) :
    start.queue.order ++ ledger.entries =
        ledger.departures.map Departure.key ++ h.queue.order ∧
      h.queue.dropped = start.queue.dropped + ledger.departures.countP Departure.isDrop := by
  induction booked with
  | start => exact ⟨List.append_nil _, rfl⟩
  | @step _ ledger h h' e booked step ih =>
    obtain ⟨horder, hdropped⟩ := ih
    obtain ⟨hpost, hcount, -⟩ := step.balanced (booked.run.sound hs).1
    constructor
    · calc start.queue.order ++ (ledger.entries ++ h.queue.entries e)
          = ledger.departures.map Departure.key ++ (h.queue.order ++ h.queue.entries e) := by
            rw [← List.append_assoc, horder, List.append_assoc]
        _ = (ledger.departures ++ h.queue.departures e h'.queue).map Departure.key ++
            h'.queue.order := by
            rw [hpost, List.map_append, List.append_assoc]
    · change _ = _ + (ledger.departures ++ h.queue.departures e h'.queue).countP Departure.isDrop
      rw [List.countP_append, hcount, hdropped, Nat.add_assoc]

/-- What leaves and is not dropped is what a worker gets. -/
theorem handedOut_departures (q q' : WorkQueue) (e : QueueEvent) :
    (q.departures e q').filterMap Departure.handedOut? = deliveries [e] := by
  have hgone : ((q.gone q').map .dropped).filterMap Departure.handedOut? = [] := by
    rw [List.filterMap_map, List.filterMap_eq_nil_iff]
    exact fun _ _ => rfl
  cases e with
  | delivered key => rfl
  | _ => exact hgone

theorem deliveries_append (events later : List QueueEvent) :
    deliveries (events ++ later) = deliveries events ++ deliveries later :=
  List.filterMap_append

/-- The keys that left and were not dropped are those that workers got. -/
theorem Booked.deliveries (booked : Booked start events ledger h) :
    ledger.departures.filterMap Departure.handedOut? = deliveries events := by
  induction booked with
  | start => rfl
  | step _ _ ih =>
    rw [Ledger.post, List.filterMap_append, ih, handedOut_departures, deliveries_append]

/-- What workers get is among what leaves, in the same order. -/
theorem handedOut_sublist (left : List Departure) :
    (left.filterMap Departure.handedOut?).Sublist (left.map Departure.key) := by
  induction left with
  | nil => exact List.Sublist.refl _
  | cons d rest ih =>
    cases d with
    | handedOut key => exact ih.cons_cons key
    | dropped key => exact ih.cons key

/-- **A queue is accounted for.** Books can be kept of every run, and
whenever they are: the keys that entered are those that left, in order,
followed by those that wait. What left a worker got or was dropped, only a
full queue drops a key, and it has counted what it dropped. So keys are
handed out in the order in which they entered, and none more often than it
entered. -/
theorem queue_is_accounted_for {store : σ} {capacity : Nat} {calendar : Instant}
    (run : QueueRun (Hub.start store capacity calendar) events h) :
    (∃ ledger, Booked (Hub.start store capacity calendar) events ledger h) ∧
      ∀ ledger, Booked (Hub.start store capacity calendar) events ledger h →
        ledger.entries = ledger.departures.map Departure.key ++ h.queue.order ∧
        ledger.departures.filterMap Departure.handedOut? = deliveries events ∧
        ledger.departures.countP Departure.isDrop = h.queue.dropped ∧
        (∀ e h', QueueStep h e h' → ∀ key, .dropped key ∈ h.queue.departures e h'.queue →
          h.queue.order.length = max capacity 1) ∧
        (deliveries events).Sublist ledger.entries ∧
        ∀ key, (deliveries events).count key ≤ ledger.entries.count key := by
  have hstart : (Hub.start store capacity calendar).queue.Sound :=
    WorkQueue.sound_withCapacity capacity
  refine ⟨run.booked, fun ledger booked => ?_⟩
  obtain ⟨hs, hcap⟩ := run.sound hstart
  have hcap' : h.queue.capacity = max capacity 1 := hcap
  obtain ⟨hentries, hdropped⟩ := booked.balances hstart
  replace hentries : ledger.entries = ledger.departures.map Departure.key ++ h.queue.order :=
    hentries
  have hdeliveries := booked.deliveries
  -- the keys handed out are some of those that left, which came in first
  have horder : (deliveries events).Sublist ledger.entries := by
    rw [hentries, ← hdeliveries]
    exact (handedOut_sublist _).trans (List.sublist_append_left _ _)
  refine ⟨hentries, hdeliveries, ?_, fun e h' step key hdrop => ?_, horder,
    fun key => horder.count_le key⟩
  · exact (hdropped.trans (Nat.zero_add _)).symm
  · have hfull := (step.balanced hs).full key hdrop
    have hbound := hs.bounded
    omega

/-- At a queue with room for one: a key enters and is dropped for another,
which is handed out, marked, put back and handed out again. -/
theorem queue_is_accounted_for_dropped : ∃ (h : Hub Unit) (ledger : Ledger),
    QueueRun (Hub.start () 1 Instant.epoch)
        [.added (Key.cluster "a"), .added (Key.cluster "b"), .delivered (Key.cluster "b"),
          .added (Key.cluster "b"), .finished (Key.cluster "b"), .delivered (Key.cluster "b")] h ∧
      ledger.entries = [Key.cluster "a", Key.cluster "b", Key.cluster "b"] ∧
      ledger.departures.countP Departure.isDrop = 1 ∧
      ledger.entries = ledger.departures.map Departure.key ++ h.queue.order := by
  have begun : Booked (Hub.start () 1 Instant.epoch) [] ⟨[], []⟩
    (Hub.start () 1 Instant.epoch) := .start
  have booked := begun
    |>.step (.added _ (Key.cluster "a"))
    |>.step (.added _ (Key.cluster "b"))
    |>.step (.delivered (rfl : _ = (WorkQueue.Delivery.key (.cluster "b"), _)))
    |>.step (.added _ (Key.cluster "b"))
    |>.step (.finished _ (Key.cluster "b"))
    |>.step (.delivered (rfl : _ = (WorkQueue.Delivery.key (.cluster "b"), _)))
  have law := (queue_is_accounted_for booked.run).2 _ booked
  exact ⟨_, _, booked.run, rfl, law.2.2.1, law.1⟩

end ClusterFleet
