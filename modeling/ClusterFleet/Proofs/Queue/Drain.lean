import ClusterFleet.Proofs.Hub.Dismissal
import ClusterFleet.Proofs.Queue.Ledger

/-!
# The work queue — after the shutdown

A queue that was shut down takes no key in, so requests take the keys that
waited then, one after another, and find none after the last
(`QueueRun.drains`). Additions, delayed ones that go off later, and ends of
work on marked keys come to the queue in different ways, and none gets past
its lock (`QueueStep.drains`).

`shutdown_drains` says this of the keys, and of those who ask for them that
nobody waits for an answer any more.
-/

namespace ClusterFleet

namespace WorkQueue

variable {q : WorkQueue} {key : Key}

theorem add_of_closed (hclosed : q.closed = true) (key : Key) : q.add key = q := by
  obtain ⟨-, heq⟩ | ⟨hopen, -⟩ | ⟨hopen, -⟩ := add_cases q key
  · exact heq
  all_goals exact absurd (hopen.symm.trans hclosed) Bool.false_ne_true

theorem done_of_closed (hclosed : q.closed = true) (key : Key) : q.done key = q.letGo key := by
  obtain ⟨-, hopen, -⟩ | ⟨-, heq⟩ := done_cases q key
  · exact absurd (hopen.symm.trans hclosed) Bool.false_ne_true
  · exact heq

/-- Nobody is told that an open queue is at its end. -/
theorem pop_ne_closed (hopen : q.closed = false) : q.pop.1 ≠ .closed := by
  cases horder : q.order with
  | nil =>
    rw [pop_of_nil horder, hopen]
    exact fun heq => nomatch heq
  | cons first rest =>
    rw [pop_of_order horder]
    exact fun heq => nomatch heq

/-- A request to a queue that was shut down gets the oldest key, or is told
that there is none. -/
theorem pop_of_closed (hclosed : q.closed = true) : q.pop.1 = q.order.head?.elim .closed .key := by
  cases horder : q.order with
  | nil =>
    rw [pop_of_nil horder, hclosed]
    rfl
  | cons first rest =>
    rw [pop_of_order horder]
    rfl

end WorkQueue

variable {σ : Type} {start h h' : Hub σ} {events : List QueueEvent} {e : QueueEvent} {key : Key}

/-! ## One operation, and a run -/

/-- Only the shutdown closes a queue. -/
theorem QueueStep.closed_eq (step : QueueStep h e h') (hne : e ≠ .shutDown) :
    h'.queue.closed = h.queue.closed := by
  cases step with
  | added k => exact WorkQueue.add_closed _ _
  | delivered pop =>
    obtain ⟨rest, -, rfl⟩ := WorkQueue.order_of_pop pop
    rfl
  | refused pop same =>
    subst same
    rw [queue_of_refused pop]
  | finished k => exact WorkQueue.done_closed _ _
  | deferred k delay =>
    obtain heq | heq := queue_addAfter h k delay <;> rw [heq]
    exact WorkQueue.add_closed _ _
  | passed later => rfl
  | wentOff waits due => exact WorkQueue.add_closed _ _
  | shutDown => exact absurd rfl hne

theorem QueueRun.closed_eq (run : QueueRun start events h) (hnone : .shutDown ∉ events) :
    h.queue.closed = start.queue.closed := by
  induction run with
  | start => rfl
  | step _ step ih =>
    rw [List.mem_append, List.mem_singleton, not_or] at hnone
    exact (step.closed_eq (Ne.symm hnone.2)).trans (ih hnone.1)

/-- A queue that was shut down stays so. -/
theorem QueueRun.closed (run : QueueRun start events h) (hclosed : start.queue.closed = true) :
    h.queue.closed = true := by
  induction run with
  | start => exact hclosed
  | step _ step ih => exact step.closed ih

/-- **After the shutdown only requests change what waits**: each takes the
oldest key, as long as there is one. -/
theorem QueueStep.drains (step : QueueStep h e h') (hclosed : h.queue.closed = true) :
    deliveries [e] = h.queue.order.take ([e].countP QueueEvent.asks) ∧
      h'.queue.order = h.queue.order.drop ([e].countP QueueEvent.asks) := by
  -- a closed queue takes nothing in, so what is left to look at is what a request takes out
  cases step with
  | added k =>
    rw [Hub.add, WorkQueue.add_of_closed hclosed]
    exact ⟨rfl, rfl⟩
  | delivered pop =>
    obtain ⟨rest, horder, rfl⟩ := WorkQueue.order_of_pop pop
    rw [horder]
    exact ⟨rfl, rfl⟩
  | refused pop same =>
    subst same
    rw [queue_of_refused pop]
    cases horder : h.queue.order with
    | nil => exact ⟨rfl, rfl⟩
    | cons first rest =>
      have := pop first
      rw [WorkQueue.pop_of_order horder] at this
      exact absurd rfl this
  | finished k =>
    rw [WorkQueue.done_of_closed hclosed]
    exact ⟨rfl, rfl⟩
  | deferred k delay =>
    obtain heq | heq := queue_addAfter h k delay <;> rw [heq]
    · exact ⟨rfl, rfl⟩
    · rw [WorkQueue.add_of_closed hclosed]
      exact ⟨rfl, rfl⟩
  | passed later => exact ⟨rfl, rfl⟩
  | @wentOff d waits due =>
    rw [Hub.goOff, Hub.add, WorkQueue.add_of_closed hclosed]
    exact ⟨rfl, rfl⟩
  | shutDown => exact ⟨rfl, rfl⟩

/-- **After the shutdown the queue drains**: the requests take the keys that
wait, in their order, and nothing else changes them. -/
theorem QueueRun.drains (run : QueueRun start events h) (hclosed : start.queue.closed = true) :
    deliveries events = start.queue.order.take (events.countP QueueEvent.asks) ∧
      h.queue.order = start.queue.order.drop (events.countP QueueEvent.asks) := by
  induction run with
  | start => exact ⟨rfl, rfl⟩
  | @step events h h' e run step ih =>
    obtain ⟨htaken, hleft⟩ := ih
    obtain ⟨hnext, hrest⟩ := step.drains (run.closed hclosed)
    rw [List.countP_append]
    constructor
    · rw [deliveries_append, htaken, hnext, hleft, List.take_add]
    · rw [hrest, hleft, List.drop_drop]

/-- **The shutdown drains the queue.** Before it nobody is told that the
queue is at its end. From then on, whatever else is done and in whatever
order, the requests together get the keys that waited at the shutdown, each
once and in order, and are told so after the last; and those who waited for
a key are woken, and nobody waits for one again. -/
theorem shutdown_drains {store : σ} {capacity : Nat} {calendar : Instant}
    (run : QueueRun (Hub.start store capacity calendar) events h) :
    (.shutDown ∉ events → h.queue.pop.1 ≠ .closed) ∧
    (∀ after h', QueueRun { h with queue := h.queue.shutdown } after h' →
      h.queue.order.Nodup ∧
      deliveries after = h.queue.order.take (after.countP QueueEvent.asks) ∧
      h'.queue.order = h.queue.order.drop (after.countP QueueEvent.asks) ∧
      h'.queue.pop.1 = (h.queue.order[after.countP QueueEvent.asks]?).elim .closed .key) ∧
    ∀ s : Stage, (∀ waiter ∈ s.line, s.shutdown.Woken waiter) ∧
      ∀ s', s.shutdown.Moves s' → s'.line = [] ∧
        ∀ (α : Type) (self : Waiter) (p : Paused α), (s'.resume self p).1.awaitsKey = false := by
  refine ⟨fun hnone => ?_, fun after h' run' => ?_, fun s => ⟨fun waiter => ?_, fun s' moves => ?_⟩⟩
  · exact WorkQueue.pop_ne_closed (run.closed_eq hnone)
  · have hclosed : h.queue.shutdown.closed = true := rfl
    obtain ⟨htaken, hleft⟩ := run'.drains hclosed
    refine ⟨(run.sound (WorkQueue.sound_withCapacity capacity)).1.nodup, htaken, hleft, ?_⟩
    rw [WorkQueue.pop_of_closed (run'.closed hclosed), hleft, List.head?_drop]
    rfl
  · exact Schedule.woken_shutdown
  · have hs' := s.dismissed_shutdown.moves moves
    exact ⟨hs'.line, fun α self p => (hs'.resume self p).2⟩

/-- A marked key, a late addition and a delayed one that goes off after the
shutdown: only the key that waited is handed out. -/
theorem shutdown_drains_marked : ∃ h h' : Hub Unit,
    QueueRun (Hub.start () 2 Instant.epoch)
        [.added (Key.cluster "a"), .added (Key.cluster "b"), .delivered (Key.cluster "a"),
          .added (Key.cluster "a"), .deferred (Key.cluster "c") (Span.ofMillis 1)] h ∧
      Key.cluster "a" ∈ h.queue.dirty ∧ h.queue.order = [Key.cluster "b"] ∧
      QueueRun { h with queue := h.queue.shutdown }
        [.passed, .wentOff (Key.cluster "c"), .added (Key.cluster "d"), .finished (Key.cluster "a"),
          .delivered (Key.cluster "b"), .refused] h' ∧
      h'.queue.order = [] ∧ h'.queue.pop.1 = .closed := by
  let a := Key.cluster "a"
  let b := Key.cluster "b"
  let c := Key.cluster "c"
  let delay := Span.ofMillis 1
  let first : Hub Unit := ((Hub.start () 2 Instant.epoch).add a).add b
  let h := ((first.handOut a [b]).add a).addAfter c delay
  have run : QueueRun (Hub.start () 2 Instant.epoch)
      [.added a, .added b, .delivered a, .added a, .deferred c delay] h := QueueRun.start
    |>.step (.added _ a)
    |>.step (.added _ b)
    |>.step (.delivered rfl)
    |>.step (.added _ a)
    |>.step (.deferred _ c delay)
  let closed : Hub Unit := { h with queue := h.queue.shutdown }
  have begun : QueueRun closed [] closed := .start
  have after := begun
    |>.step (.passed (show 0 ≤ (Moment.ofTick 1).nanos from Nat.zero_le _))
    |>.step (.wentOff (d := ⟨c, Moment.start.after delay, 0⟩) List.mem_cons_self (by decide))
    |>.step (.added _ (Key.cluster "d"))
    |>.step (.finished _ a)
    |>.step (.delivered (rfl : _ = (WorkQueue.Delivery.key b, _)))
    |>.step (.refused (fun _ heq => nomatch heq) rfl)
  obtain ⟨-, -, hleft, hanswer⟩ := (shutdown_drains run).2.1 _ _ after
  exact ⟨_, _, run, by decide, rfl, after, hleft, hanswer⟩

end ClusterFleet
