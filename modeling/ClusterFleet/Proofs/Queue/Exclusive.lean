import ClusterFleet.Proofs.Hub.Step
import ClusterFleet.Proofs.Queue.Sound

/-!
# The work queue — one worker for one key

Producers and workers share the queue of a hub and take their operations
in any order. `QueueRun` is every such order, with the delayed additions
that wait on the clock among them, and keeps the record of what happened.

A key that was handed out and not done since is one somebody works on
(`processing_of_out`), and nobody works on a key that waits, so a key
that is handed out again was done in between. That is
`one_worker_for_one_key`, together with the agreement of the lists it
rests on.
-/

namespace ClusterFleet

/-- What a producer, a worker or the clock does to a queue. -/
inductive QueueEvent where
  | added (key : Key)
  /-- A worker asks for a key and gets this one. -/
  | delivered (key : Key)
  /-- A worker asks for a key and gets none. -/
  | refused
  /-- The work on a key is declared done, whoever has the key. -/
  | finished (key : Key)
  /-- A key is to be added after a delay. -/
  | deferred (key : Key) (delay : Span)
  | passed
  /-- A delayed addition is made. -/
  | wentOff (key : Key)
  | shutDown

variable {σ : Type}

/-- One operation on the queue of a hub. -/
inductive QueueStep : Hub σ → QueueEvent → Hub σ → Prop
  | added (h : Hub σ) (key : Key) : QueueStep h (.added key) (h.add key)
  | delivered {h : Hub σ} {key : Key} {queue : WorkQueue} (pop : h.queue.pop = (.key key, queue)) :
      QueueStep h (.delivered key) { h with queue := queue }
  | refused {h : Hub σ} {queue : WorkQueue} (pop : ∀ key, h.queue.pop ≠ (.key key, queue))
      (same : h.queue.pop.2 = queue) : QueueStep h .refused { h with queue := queue }
  | finished (h : Hub σ) (key : Key) :
      QueueStep h (.finished key) { h with queue := h.queue.done key }
  | deferred (h : Hub σ) (key : Key) (delay : Span) :
      QueueStep h (.deferred key delay) (h.addAfter key delay)
  | passed {h : Hub σ} {now : Moment} (later : h.clock.nanos ≤ now.nanos) :
      QueueStep h .passed { h with clock := now }
  | wentOff {h : Hub σ} {d : Delayed} (waits : d ∈ h.delayed) (due : d.due.tick ≤ h.clock.tick) :
      QueueStep h (.wentOff d.key) (h.goOff d)
  | shutDown (h : Hub σ) : QueueStep h .shutDown { h with queue := h.queue.shutdown }

/-- Operations one after another, with the record of what happened. -/
inductive QueueRun (start : Hub σ) : List QueueEvent → Hub σ → Prop
  | start : QueueRun start [] start
  | step {events : List QueueEvent} {h h' : Hub σ} {e : QueueEvent} :
      QueueRun start events h → QueueStep h e h' → QueueRun start (events ++ [e]) h'

/-- A key was handed out and not done since. -/
def Out (events : List QueueEvent) (key : Key) : Prop :=
  ∃ before after, events = before ++ .delivered key :: after ∧ .finished key ∉ after

variable {start h h' : Hub σ} {events : List QueueEvent} {e : QueueEvent} {key : Key}

/-! ## One operation -/

/-- A delayed addition leaves the queue as it is, or adds the key at
once. -/
theorem queue_addAfter (h : Hub σ) (key : Key) (delay : Span) :
    (h.addAfter key delay).queue = h.queue ∨
      (h.addAfter key delay).queue = h.queue.add key := by
  unfold Hub.addAfter
  by_cases hzero : delay = Span.zero
  · rw [if_pos hzero]
    exact Or.inr rfl
  · rw [if_neg hzero]
    exact Or.inl rfl

/-- A refusal leaves the queue as it is. -/
theorem queue_of_refused {q : WorkQueue} (pop : ∀ key, q.pop ≠ (.key key, q.pop.2)) :
    q.pop.2 = q := by
  cases horder : q.order with
  | nil => rw [WorkQueue.pop_of_nil horder]
  | cons first rest =>
    have := pop first
    rw [WorkQueue.pop_of_order horder] at this
    exact absurd rfl this

/-- No operation changes the room. -/
theorem QueueStep.capacity (step : QueueStep h e h') : h'.queue.capacity = h.queue.capacity := by
  have hadd (q : WorkQueue) (key : Key) : (q.add key).capacity = q.capacity := by
    obtain ⟨-, heq⟩ | ⟨-, -, -, heq⟩ | ⟨-, -, -, heq⟩ := WorkQueue.add_cases q key <;>
      rw [heq]
    exact WorkQueue.enqueue_capacity
  cases step with
  | added key => exact hadd _ _
  | delivered pop =>
    obtain ⟨rest, -, rfl⟩ := WorkQueue.order_of_pop pop
    rfl
  | refused pop same =>
    subst same
    rw [queue_of_refused pop]
  | finished key =>
    obtain ⟨-, -, heq⟩ | ⟨-, heq⟩ := WorkQueue.done_cases h.queue key <;>
      simp only [heq, WorkQueue.enqueue_capacity] <;> rfl
  | deferred key delay =>
    obtain heq | heq := queue_addAfter h key delay <;> rw [heq]
    exact hadd _ _
  | passed later => rfl
  | wentOff waits due => exact hadd _ _
  | shutDown => rfl

/-- Every operation keeps the lists in agreement. -/
theorem QueueStep.sound (step : QueueStep h e h') (hs : h.queue.Sound) : h'.queue.Sound := by
  cases step with
  | added key => exact hs.add key
  | delivered pop =>
    obtain ⟨rest, horder, rfl⟩ := WorkQueue.order_of_pop pop
    exact hs.handedOut horder
  | refused pop same =>
    subst same
    rwa [queue_of_refused pop]
  | finished key => exact hs.done key
  | deferred key delay =>
    obtain heq | heq := queue_addAfter h key delay <;> rw [heq]
    · exact hs
    · exact hs.add key
  | passed later => exact hs
  | wentOff waits due => exact hs.add _
  | shutDown => exact hs.shutdown

/-- An addition takes no key out of a worker's hands. -/
theorem mem_processing_add {q : WorkQueue} {k : Key} (hk : k ∈ q.processing) (key : Key) :
    k ∈ (q.add key).processing := by
  obtain ⟨-, heq⟩ | ⟨-, -, -, heq⟩ | ⟨-, -, -, heq⟩ := WorkQueue.add_cases q key <;> rw [heq]
  · exact hk
  · exact hk
  · rwa [WorkQueue.enqueue_processing]

/-- Only its own end takes a key out of a worker's hands. -/
theorem QueueStep.mem_processing (step : QueueStep h e h') (hk : key ∈ h.queue.processing)
    (hne : e ≠ .finished key) : key ∈ h'.queue.processing := by
  cases step with
  | added k => exact mem_processing_add hk k
  | delivered pop =>
    obtain ⟨rest, -, rfl⟩ := WorkQueue.order_of_pop pop
    exact WorkQueue.mem_withKey.2 (Or.inr hk)
  | refused pop same =>
    subst same
    rwa [queue_of_refused pop]
  | finished k =>
    have hkeep : key ∈ (h.queue.letGo k).processing :=
      WorkQueue.mem_withoutKey.2 ⟨hk, fun he => hne (he ▸ rfl)⟩
    obtain ⟨-, -, heq⟩ | ⟨-, heq⟩ := WorkQueue.done_cases h.queue k <;> simp only [heq]
    · rwa [WorkQueue.enqueue_processing]
    · exact hkeep
  | deferred k delay =>
    obtain heq | heq := queue_addAfter h k delay <;> rw [heq]
    · exact hk
    · exact mem_processing_add hk k
  | passed later => exact hk
  | wentOff waits due => exact mem_processing_add hk _
  | shutDown => exact hk

/-! ## A run -/

/-- What a run keeps: the lists in agreement, and the room. -/
theorem QueueRun.sound (run : QueueRun start events h) (hs : start.queue.Sound) :
    h.queue.Sound ∧ h.queue.capacity = start.queue.capacity := by
  induction run with
  | start => exact ⟨hs, rfl⟩
  | step _ step ih => exact ⟨step.sound ih.1, step.capacity.trans ih.2⟩

/-- A key that was handed out and not done since is one somebody works
on. -/
theorem QueueRun.processing_of_out (run : QueueRun start events h) (hout : Out events key) :
    key ∈ h.queue.processing := by
  induction run with
  | start =>
    obtain ⟨before, after, heq, -⟩ := hout
    simp at heq
  | step _ step ih =>
    obtain ⟨before, after, heq, hopen⟩ := hout
    obtain ⟨rfl, -, rfl⟩ | ⟨earlier, rfl, hevents⟩ := split_snoc heq
    · -- the handing out is the last thing that happened
      cases step with
      | delivered pop =>
        obtain ⟨rest, -, rfl⟩ := WorkQueue.order_of_pop pop
        exact WorkQueue.mem_withKey.2 (Or.inl rfl)
    · rw [List.mem_append, List.mem_singleton, not_or] at hopen
      exact step.mem_processing (ih ⟨before, earlier, hevents, hopen.1⟩) (Ne.symm hopen.2)

/-- **A key handed out twice was done in between.** At the second time it
waits, so nobody works on it, so it was done since the first. -/
theorem QueueRun.finished_between (run : QueueRun start events h) (hs : start.queue.Sound)
    {before between after : List QueueEvent}
    (heq : events = (before ++ .delivered key :: between) ++ .delivered key :: after) :
    .finished key ∈ between := by
  induction run generalizing after with
  | start => simp at heq
  | step run step ih =>
    obtain ⟨rfl, hevents, rfl⟩ | ⟨earlier, rfl, hevents⟩ := split_snoc heq
    · by_contra hopen
      have hwork := run.processing_of_out ⟨before, between, hevents, hopen⟩
      cases step with
      | delivered pop =>
        obtain ⟨rest, horder, -⟩ := WorkQueue.order_of_pop pop
        exact (run.sound hs).1.not_processing key (horder ▸ List.mem_cons_self) hwork
    · exact ih hevents

/-- **One worker for one key.** Whatever producers and workers do, and in
whatever order, the lists of the queue agree, and a key that is handed out
twice was done in between. -/
theorem one_worker_for_one_key {store : σ} {capacity : Nat} {calendar : Instant}
    (run : QueueRun (Hub.start store capacity calendar) events h) :
    h.queue.order.Nodup ∧
      (∀ key, key ∈ h.queue.queued ↔ key ∈ h.queue.order) ∧
      h.queue.order.length ≤ max capacity 1 ∧
      (∀ key, ¬(key ∈ h.queue.queued ∧ key ∈ h.queue.processing)) ∧
      (∀ key ∈ h.queue.dirty, key ∈ h.queue.processing) ∧
      (∀ key, Out events key → key ∈ h.queue.processing) ∧
      ∀ key before between after,
        events = (before ++ .delivered key :: between) ++ .delivered key :: after →
        .finished key ∈ between := by
  have hstart : (Hub.start store capacity calendar).queue.Sound :=
    WorkQueue.sound_withCapacity capacity
  obtain ⟨hs, hcap⟩ := run.sound hstart
  refine ⟨hs.nodup, hs.mem_queued, ?_, ?_, hs.dirty_processing, ?_, ?_⟩
  · have := hs.bounded
    rwa [hcap] at this
  · rintro key ⟨hq, hwork⟩
    exact hs.not_processing key ((hs.mem_queued key).1 hq) hwork
  · intro key hout
    exact run.processing_of_out hout
  · intro key before between after heq
    exact run.finished_between hstart heq

/-- At a queue with room for one: a key is dropped for another, which is
handed out, added meanwhile, done, and handed out again. -/
theorem one_worker_for_one_key_again : ∃ h : Hub Unit,
    QueueRun (Hub.start () 1 Instant.epoch)
      [.added (Key.cluster "a"), .added (Key.cluster "b"), .delivered (Key.cluster "b"),
        .added (Key.cluster "b"), .finished (Key.cluster "b"), .delivered (Key.cluster "b")] h ∧
      h.queue.dropped = 1 ∧ h.queue.order.length ≤ max 1 1 ∧
      QueueEvent.finished (Key.cluster "b") ∈
        [.added (Key.cluster "b"), .finished (Key.cluster "b")] := by
  have begun : QueueRun (Hub.start () 1 Instant.epoch) [] (Hub.start () 1 Instant.epoch) := .start
  have run := begun
    |>.step (.added _ (Key.cluster "a"))
    |>.step (.added _ (Key.cluster "b"))
    |>.step (.delivered (rfl : _ = (WorkQueue.Delivery.key (.cluster "b"), _)))
    |>.step (.added _ (Key.cluster "b"))
    |>.step (.finished _ (Key.cluster "b"))
    |>.step (.delivered (rfl : _ = (WorkQueue.Delivery.key (.cluster "b"), _)))
  have law := one_worker_for_one_key run
  exact ⟨_, run, rfl, law.2.2.1,
    law.2.2.2.2.2.2 (Key.cluster "b") [.added (Key.cluster "a"), .added (Key.cluster "b")] _ [] rfl⟩

end ClusterFleet
