import ClusterFleet.Proofs.Queue.Exclusive
import ClusterFleet.Proofs.Queue.Pending

/-!
# The work queue — until when an addition lasts

An addition is owed a delivery. The key waits, or it is marked while
somebody works on it, and moves from the one list to the other when that
work ends. Three things alone end this (`Released`): the key is handed
out, a full queue drops it and counts it, or its mark is discarded after
the shutdown. `QueueStep.pending_or_released` is the step and
`RunOf.pending` the run.

A key that waits also comes nearer to its turn. `Behind` bounds the keys
in front of it, every key that is handed out brings the bound down, and
nothing raises it (`QueueStep.behind`). So a key that was added while it
was worked on is handed out again after as many requests as there is
room, if nothing drops it. `no_addition_is_lost` says both.
-/

namespace ClusterFleet

namespace WorkQueue

variable {q q' : WorkQueue} {key k : Key}

/-- A key waits, or is marked while somebody works on it. -/
def Expects (q : WorkQueue) (key : Key) : Prop :=
  key ∈ q.queued ∨ (key ∈ q.dirty ∧ key ∈ q.processing)

/-- A full queue drops its oldest key, which is then no longer pending,
and counts it. -/
structure Drops (q q' : WorkQueue) (key : Key) : Prop where
  oldest : ∃ rest, q.order = key :: rest
  full : q.capacity ≤ q.order.length
  counted : q'.dropped = q.dropped + 1
  gone : ¬q'.Pending key

/-- At most `n` keys wait in front of a key. -/
def Behind (q : WorkQueue) (key : Key) (n : ℕ) : Prop :=
  ∃ front back, q.order = front ++ key :: back ∧ front.length ≤ n

/-! ## One operation -/

theorem Sound.expects_iff (hs : q.Sound) : q.Expects key ↔ q.Pending key := by
  unfold Expects Pending
  rw [hs.mem_queued]
  exact or_congr_right (and_iff_left_of_imp (hs.dirty_processing key))

theorem Behind.mem {n : ℕ} (h : q.Behind key n) : key ∈ q.order := by
  obtain ⟨front, back, horder, -⟩ := h
  exact horder ▸ List.mem_append_right front List.mem_cons_self

/-- In a queue that is not overfull fewer keys are in front than there is
room for. -/
theorem Sound.behind (hs : q.Sound) (hk : key ∈ q.order) : q.Behind key (q.capacity - 1) := by
  obtain ⟨front, back, horder⟩ := List.append_of_mem hk
  have hbound := hs.bounded
  rw [horder, List.length_append, List.length_cons] at hbound
  exact ⟨front, back, horder, by omega⟩

theorem makeRoom_of_room (hroom : q.order.length < q.capacity) : q.makeRoom = q := by
  rw [makeRoom, if_neg (Nat.not_le.2 hroom)]

/-- Where a key is put at the end, the others keep their order, and the
oldest of them is dropped where there was no room. -/
theorem Sound.enqueue_cases (hs : q.Sound) (hidle : k ∉ q.order) :
    (q.enqueue k).order = q.order ++ [k] ∨
      ∃ oldest rest, q.order = oldest :: rest ∧ (q.enqueue k).order = rest ++ [k] ∧
        q.Drops (q.enqueue k) oldest := by
  obtain ⟨heq, -⟩ | ⟨oldest, rest, horder, heq⟩ := makeRoom_cases q
  · left
    rw [enqueue_order, heq]
  right
  have horder' : (q.enqueue k).order = rest ++ [k] := by rw [enqueue_order, heq]
  have hnodup := hs.nodup
  rw [horder, List.nodup_cons] at hnodup
  have hfree := hs.not_processing oldest (horder ▸ List.mem_cons_self)
  refine ⟨oldest, rest, horder, horder', ⟨rest, horder⟩, ?_, ?_, ?_⟩
  · -- with room nothing would have left
    by_contra hroom
    have hsame : rest = q.order := by
      rw [← makeRoom_of_room (Nat.lt_of_not_le hroom), heq]
    exact List.cons_ne_self _ _ (horder.symm.trans hsame.symm)
  · exact congrArg WorkQueue.dropped heq
  · -- neither list holds the key that made room any more
    rintro (hwait | hmark)
    · rw [horder', List.mem_append, List.mem_singleton] at hwait
      rcases hwait with hwait | rfl
      · exact hnodup.1 hwait
      · exact hidle (horder ▸ List.mem_cons_self)
    · rw [enqueue_dirty] at hmark
      exact hfree (hs.dirty_processing oldest hmark)

/-- Putting a key at the end keeps what is pending, but for what it
drops. -/
theorem Sound.pending_enqueue_or (hs : q.Sound) (hidle : k ∉ q.order) (hk : q.Pending key) :
    (q.enqueue k).Pending key ∨ q.Drops (q.enqueue k) key := by
  rcases hk with hwait | hmark
  · obtain horder | ⟨oldest, rest, horder, horder', hdrops⟩ := hs.enqueue_cases hidle
    · exact .inl (.inl (horder ▸ List.mem_append_left [k] hwait))
    · rw [horder, List.mem_cons] at hwait
      rcases hwait with rfl | hwait
      · exact .inr hdrops
      · exact .inl (.inl (horder' ▸ List.mem_append_left [k] hwait))
  · exact .inl (.inr (by rwa [enqueue_dirty]))

theorem Sound.pending_add_or (hs : q.Sound) (hk : q.Pending key) (k : Key) :
    (q.add k).Pending key ∨ q.Drops (q.add k) key := by
  obtain ⟨-, heq⟩ | ⟨-, -, -, heq⟩ | ⟨-, hqueued, -, heq⟩ := add_cases q k <;> rw [heq]
  · exact .inl hk
  · exact .inl (hk.imp_right fun hmark => mem_withKey.2 (.inr hmark))
  · exact hs.pending_enqueue_or (fun hwait => hqueued ((hs.mem_queued k).2 hwait)) hk

/-- The end of the work on a key keeps what is pending, but for what it
drops and for the mark of that key after the shutdown. -/
theorem Sound.pending_done_or (hs : q.Sound) (hk : q.Pending key) (k : Key) :
    (q.done k).Pending key ∨ q.Drops (q.done k) key ∨
      (k = key ∧ q.closed = true ∧ key ∈ q.dirty) := by
  have hrest (hne : k ≠ key) : (q.letGo k).Pending key :=
    hk.imp_right fun hmark => mem_withoutKey.2 ⟨hmark, Ne.symm hne⟩
  obtain ⟨hdirty, -, heq⟩ | ⟨hclean, heq⟩ := done_cases q k
  · -- the mark is honoured: the key whose work ends waits, and may drop another for it
    rw [heq]
    by_cases hne : k = key
    · exact .inl (hne ▸ pending_enqueue _ _)
    · have hidle : k ∉ (q.letGo k).order :=
        fun hwait => hs.not_processing k hwait (hs.dirty_processing k hdirty)
      obtain hk | hdrops := (hs.letGo k).pending_enqueue_or hidle (hrest hne)
      · exact .inl hk
      · exact .inr (.inl ⟨hdrops.oldest, hdrops.full, hdrops.counted, hdrops.gone⟩)
  · -- a mark that is not honoured is one of this key, and the queue is shut down
    rw [heq]
    by_cases hne : k = key
    · subst hne
      rcases hk with hwait | hmark
      · exact .inl (.inl hwait)
      · exact .inr (.inr ⟨rfl, hclean.resolve_left (not_not_intro hmark), hmark⟩)
    · exact .inl (hrest hne)

/-- The end of the work on a key that is marked puts it at the end, if the
queue is open. -/
theorem order_done (hmark : key ∈ q.dirty) (hopen : q.closed = false) :
    key ∈ (q.done key).order := by
  obtain ⟨-, -, heq⟩ | ⟨hclean | hclosed, -⟩ := done_cases q key
  · rw [heq, enqueue_order]
    exact List.mem_append_right _ (List.mem_singleton.2 rfl)
  · exact absurd hmark hclean
  · exact absurd (hopen ▸ hclosed) Bool.false_ne_true

/-- Putting a key at the end brings no key further back, but for what it
drops. -/
theorem Behind.enqueue {n : ℕ} (h : q.Behind key n) (hs : q.Sound) (hidle : k ∉ q.order)
    (hkept : ¬q.Drops (q.enqueue k) key) : (q.enqueue k).Behind key n := by
  obtain ⟨front, back, hsplit, hle⟩ := h
  obtain horder | ⟨oldest, rest, hcons, horder, hdrops⟩ := hs.enqueue_cases hidle
  · refine ⟨front, back ++ [k], ?_, hle⟩
    rw [horder, hsplit, List.append_assoc, List.cons_append]
  -- the key that makes room is not this one, so it stood in front of it
  rw [hcons] at hsplit
  cases front with
  | nil =>
    obtain ⟨rfl, -⟩ := List.cons_eq_cons.1 hsplit
    exact absurd hdrops hkept
  | cons first front =>
    rw [List.cons_append] at hsplit
    obtain ⟨-, rfl⟩ := List.cons_eq_cons.1 hsplit
    refine ⟨front, back ++ [k], ?_, Nat.le_of_succ_le hle⟩
    rw [horder, List.append_assoc, List.cons_append]

theorem Behind.add {n : ℕ} (h : q.Behind key n) (hs : q.Sound) (k : Key)
    (hkept : ¬q.Drops (q.add k) key) : (q.add k).Behind key n := by
  obtain ⟨-, heq⟩ | ⟨-, -, -, heq⟩ | ⟨-, hqueued, -, heq⟩ := add_cases q k <;> rw [heq] at hkept ⊢
  · exact h
  · exact h
  · exact h.enqueue hs (fun hwait => hqueued ((hs.mem_queued k).2 hwait)) hkept

theorem Behind.done {n : ℕ} (h : q.Behind key n) (hs : q.Sound) (k : Key)
    (hkept : ¬q.Drops (q.done k) key) : (q.done k).Behind key n := by
  obtain ⟨hdirty, -, heq⟩ | ⟨-, heq⟩ := done_cases q k <;> rw [heq] at hkept ⊢
  · refine Behind.enqueue (q := q.letGo k) h (hs.letGo k) (fun hwait => ?_) fun hdrops => hkept ?_
    · exact hs.not_processing k hwait (hs.dirty_processing k hdirty)
    · exact ⟨hdrops.oldest, hdrops.full, hdrops.counted, hdrops.gone⟩
  · exact h

/-- A key that is handed out makes the way of the others shorter. -/
theorem Behind.handedOut {n : ℕ} {rest : List Key} (h : q.Behind key n)
    (horder : q.order = k :: rest) (hne : k ≠ key) :
    ∃ m, (q.handedOut k rest).Behind key m ∧ m + 1 ≤ n := by
  obtain ⟨front, back, hsplit, hle⟩ := h
  rw [horder] at hsplit
  cases front with
  | nil => exact absurd (List.cons_eq_cons.1 hsplit).1 hne
  | cons first front =>
    obtain ⟨-, rfl⟩ := List.cons_eq_cons.1 hsplit
    exact ⟨front.length, ⟨front, back, rfl, Nat.le_refl _⟩, hle⟩

end WorkQueue

variable {σ : Type} {start h h' : Hub σ} {events : List QueueEvent} {e : QueueEvent} {key : Key}

/-! ## Until when a key is pending -/

/-- How a key stops being pending. -/
inductive Released (key : Key) : Hub σ → QueueEvent → Hub σ → Prop
  /-- It is handed out. -/
  | delivered {h h' : Hub σ} : Released key h (.delivered key) h'
  /-- A full queue drops it. -/
  | dropped {h h' : Hub σ} {e : QueueEvent} (drops : h.queue.Drops h'.queue key) :
      Released key h e h'
  /-- Its mark is discarded after the shutdown. -/
  | discarded {h h' : Hub σ} (closed : h.queue.closed = true) (mark : key ∈ h.queue.dirty) :
      Released key h (.finished key) h'

/-- A run each of whose steps is as `allowed` says. -/
inductive RunOf (allowed : Hub σ → QueueEvent → Hub σ → Prop) (start : Hub σ) :
    List QueueEvent → Hub σ → Prop
  | start : RunOf allowed start [] start
  | step {events : List QueueEvent} {h h' : Hub σ} {e : QueueEvent} :
      RunOf allowed start events h → QueueStep h e h' → allowed h e h' →
        RunOf allowed start (events ++ [e]) h'

/-- One operation keeps a key pending, or releases it. -/
theorem QueueStep.pending_or_released (step : QueueStep h e h') (hs : h.queue.Sound)
    (hk : h.queue.Pending key) : h'.queue.Pending key ∨ Released key h e h' := by
  cases step with
  | added k => exact (hs.pending_add_or hk k).imp_right .dropped
  | @delivered k _ pop =>
    obtain ⟨rest, horder, rfl⟩ := WorkQueue.order_of_pop pop
    by_cases hne : k = key
    · exact .inr (hne ▸ .delivered)
    · exact .inl (WorkQueue.pending_handedOut horder hk (Ne.symm hne))
  | refused pop same =>
    subst same
    rw [queue_of_refused pop]
    exact .inl hk
  -- the end of the work on a key puts it back, if it was marked and the queue is open
  | finished k =>
    obtain hk | hdrops | ⟨rfl, hclosed, hmark⟩ := hs.pending_done_or hk k
    · exact .inl hk
    · exact .inr (.dropped hdrops)
    · exact .inr (.discarded hclosed hmark)
  | deferred k delay =>
    obtain heq | heq := queue_addAfter h k delay
    · exact .inl (heq ▸ hk)
    · obtain hk | hdrops := hs.pending_add_or hk k
      · exact .inl (heq ▸ hk)
      · exact .inr (.dropped (heq ▸ hdrops))
  | passed later => exact .inl hk
  | wentOff waits due => exact (hs.pending_add_or hk _).imp_right .dropped
  | shutDown => exact .inl hk

/-- What releases a key leaves it in neither list. -/
theorem Released.not_pending (released : Released key h e h') (step : QueueStep h e h')
    (hs : h.queue.Sound) : ¬h'.queue.Pending key := by
  cases released with
  | delivered =>
    cases step with
    | delivered pop =>
      obtain ⟨rest, horder, rfl⟩ := WorkQueue.order_of_pop pop
      have hnodup := hs.nodup
      rw [horder, List.nodup_cons] at hnodup
      -- it waited once, and what waits is not marked
      rintro (hwait | hmark)
      · exact hnodup.1 hwait
      · exact hs.not_processing key (horder ▸ List.mem_cons_self) (hs.dirty_processing key hmark)
  | dropped drops => exact drops.gone
  | discarded closed mark =>
    cases step with
    | finished k =>
      obtain ⟨-, hopen, -⟩ | ⟨-, heq⟩ := WorkQueue.done_cases h.queue key
      · rw [closed] at hopen
        cases hopen
      · change ¬(h.queue.done key).Pending key
        rw [heq]
        rintro (hwait | hmark)
        · exact hs.not_processing key hwait (hs.dirty_processing key mark)
        · exact (WorkQueue.mem_withoutKey.1 hmark).2 rfl

variable {allowed : Hub σ → QueueEvent → Hub σ → Prop}

theorem RunOf.run (run : RunOf allowed start events h) : QueueRun start events h := by
  induction run with
  | start => exact .start
  | step _ step _ ih => exact ih.step step

/-- **Until it is released a key stays pending.** -/
theorem RunOf.pending (run : RunOf (fun h e h' => ¬Released key h e h') start events h)
    (hs : start.queue.Sound) (hk : start.queue.Pending key) : h.queue.Pending key := by
  induction run with
  | start => exact hk
  | step run step kept ih =>
    exact (step.pending_or_released (run.run.sound hs).1 ih).resolve_right kept

/-! ## How near a key is to its turn -/

/-- A worker asks for a key. -/
def QueueEvent.asks : QueueEvent → Bool
  | .delivered _ | .refused => true
  | _ => false

/-- **Every request brings a key that waits nearer to its turn**, and
nothing brings it further back. -/
theorem QueueStep.behind {n : ℕ} (step : QueueStep h e h') (hs : h.queue.Sound)
    (hk : h.queue.Behind key n) (hkept : ¬h.queue.Drops h'.queue key)
    (hne : e ≠ .delivered key) :
    ∃ m, h'.queue.Behind key m ∧ m + (if e.asks then 1 else 0) ≤ n := by
  cases step with
  | added k => exact ⟨n, hk.add hs k hkept, Nat.le_refl _⟩
  | @delivered k _ pop =>
    obtain ⟨rest, horder, rfl⟩ := WorkQueue.order_of_pop pop
    exact hk.handedOut horder fun heq => hne (heq ▸ rfl)
  | refused pop same =>
    -- a key waits, so the worker that asks gets one
    subst same
    have hnil := List.ne_nil_of_mem hk.mem
    obtain ⟨first, rest, horder⟩ := List.exists_cons_of_ne_nil hnil
    have := pop first
    rw [WorkQueue.pop_of_order horder] at this
    exact absurd rfl this
  | finished k => exact ⟨n, hk.done hs k hkept, Nat.le_refl _⟩
  | deferred k delay =>
    refine ⟨n, ?_, Nat.le_refl _⟩
    obtain heq | heq := queue_addAfter h k delay <;> rw [heq] at hkept ⊢
    · exact hk
    · exact hk.add hs k hkept
  | passed later => exact ⟨n, hk, Nat.le_refl _⟩
  | wentOff waits due => exact ⟨n, hk.add hs _ hkept, Nat.le_refl _⟩
  | shutDown => exact ⟨n, hk, Nat.le_refl _⟩

/-- A key that nothing drops is handed out, or the requests have brought
it nearer. -/
theorem RunOf.delivered_or_behind {n : ℕ}
    (run : RunOf (fun h _ h' => ¬h.queue.Drops h'.queue key) start events h)
    (hs : start.queue.Sound) (hk : start.queue.Behind key n) :
    .delivered key ∈ events ∨
      ∃ m, h.queue.Behind key m ∧ m + events.countP QueueEvent.asks ≤ n := by
  induction run with
  | start => exact .inr ⟨n, hk, Nat.le_refl _⟩
  | @step events h h' e run step kept ih =>
    rcases ih with hout | ⟨m, hm, hle⟩
    · exact .inl (List.mem_append_left _ hout)
    by_cases hne : e = .delivered key
    · exact .inl (hne ▸ List.mem_append_right _ (List.mem_singleton.2 rfl))
    -- the bound and the requests so far never exceed the first bound together
    obtain ⟨m', hm', hle'⟩ := step.behind (run.run.sound hs).1 hm kept hne
    refine .inr ⟨m', hm', ?_⟩
    rw [List.countP_append, List.countP_singleton]
    omega

/-! ## Whose hands a key is in -/

/-- Only a handing out puts a key into a worker's hands. -/
theorem QueueStep.processing_or_delivered (step : QueueStep h e h')
    (hk : key ∈ h'.queue.processing) : key ∈ h.queue.processing ∨ e = .delivered key := by
  have hadd (q : WorkQueue) (k : Key) (h : key ∈ (q.add k).processing) : key ∈ q.processing :=
    WorkQueue.add_processing q k ▸ h
  cases step with
  | added k => exact .inl (hadd _ k hk)
  | delivered pop =>
    obtain ⟨rest, -, rfl⟩ := WorkQueue.order_of_pop pop
    rcases WorkQueue.mem_withKey.1 hk with rfl | hk
    · exact .inr rfl
    · exact .inl hk
  | refused pop same =>
    subst same
    rw [queue_of_refused pop] at hk
    exact .inl hk
  | finished k =>
    have hkept : key ∈ (h.queue.letGo k).processing := by
      obtain ⟨-, -, heq⟩ | ⟨-, heq⟩ := WorkQueue.done_cases h.queue k <;> simp only [heq] at hk
      · rwa [WorkQueue.enqueue_processing] at hk
      · exact hk
    exact .inl (WorkQueue.mem_withoutKey.1 hkept).1
  | deferred k delay =>
    obtain heq | heq := queue_addAfter h k delay <;> rw [heq] at hk
    · exact .inl hk
    · exact .inl (hadd _ k hk)
  | passed later => exact .inl hk
  | wentOff waits due => exact .inl (hadd _ _ hk)
  | shutDown => exact .inl hk

/-- Nobody works on a key that was in nobody's hands and was not handed out
since. -/
theorem QueueRun.idle (run : QueueRun start events h) (hidle : key ∉ start.queue.processing)
    (hkept : .delivered key ∉ events) : key ∉ h.queue.processing := by
  induction run with
  | start => exact hidle
  | step _ step ih =>
    rw [List.mem_append, List.mem_singleton, not_or] at hkept
    intro hk
    obtain hk | rfl := step.processing_or_delivered hk
    · exact ih hkept.1 hk
    · exact hkept.2 rfl

/-- **A key that is never done is never handed out again.** -/
theorem QueueRun.held (run : QueueRun start events h) (hs : start.queue.Sound)
    (hk : key ∈ start.queue.processing) (hopen : .finished key ∉ events) :
    key ∈ h.queue.processing ∧ .delivered key ∉ events := by
  induction run with
  | start => exact ⟨hk, List.not_mem_nil⟩
  | step run step ih =>
    rw [List.mem_append, List.mem_singleton, not_or] at hopen
    obtain ⟨hwork, hkept⟩ := ih hopen.1
    refine ⟨step.mem_processing hwork (Ne.symm hopen.2), fun hmem => ?_⟩
    rw [List.mem_append, List.mem_singleton] at hmem
    rcases hmem with hmem | rfl
    · exact hkept hmem
    · cases step with
      | delivered pop =>
        obtain ⟨rest, horder, -⟩ := WorkQueue.order_of_pop pop
        exact (run.sound hs).1.not_processing key (horder ▸ List.mem_cons_self) hwork

/-- **A key in nobody's hands that is added is handed out**, after as many
requests as there is room, if nothing drops it. -/
theorem RunOf.delivered_once_added
    (run : RunOf (fun h _ h' => ¬h.queue.Drops h'.queue key) (h.add key) events h')
    (hs : h.queue.Sound) (hopen : h.queue.closed = false) (hidle : key ∉ h.queue.processing) :
    .delivered key ∈ events ∨
      (key ∈ h'.queue.order ∧ events.countP QueueEvent.asks < h.queue.capacity) := by
  have hs' : (h.add key).queue.Sound := hs.add key
  have hcap : (h.add key).queue.capacity = h.queue.capacity := (QueueStep.added h key).capacity
  have hpos := hs.capacity_pos
  have hwait : key ∈ (h.add key).queue.order := by
    refine (WorkQueue.pending_add hs hopen key).resolve_right fun hmark => hidle ?_
    have hwork := hs'.dirty_processing key hmark
    rwa [Hub.add, WorkQueue.add_processing] at hwork
  obtain hout | ⟨m, hm, hle⟩ := run.delivered_or_behind hs' (hs'.behind hwait)
  · exact .inl hout
  · exact .inr ⟨hm.mem, by omega⟩

/-! ## An addition to a key somebody works on -/

theorem QueueStep.closed (step : QueueStep h e h') (hclosed : h.queue.closed = true) :
    h'.queue.closed = true := by
  cases step with
  | added k => exact (WorkQueue.add_closed _ _).trans hclosed
  | delivered pop =>
    obtain ⟨rest, -, rfl⟩ := WorkQueue.order_of_pop pop
    exact hclosed
  | refused pop same =>
    subst same
    rwa [queue_of_refused pop]
  | finished k => exact (WorkQueue.done_closed _ _).trans hclosed
  | deferred k delay =>
    obtain heq | heq := queue_addAfter h k delay <;> rw [heq]
    · exact hclosed
    · exact (WorkQueue.add_closed _ _).trans hclosed
  | passed later => exact hclosed
  | wentOff waits due => exact (WorkQueue.add_closed _ _).trans hclosed
  | shutDown => rfl

/-- A queue that is open was never shut down. -/
theorem QueueRun.open_of_open (run : QueueRun start events h) (hopen : h.queue.closed = false) :
    start.queue.closed = false := by
  induction run with
  | start => exact hopen
  | @step _ h _ _ _ step ih =>
    refine ih (Bool.eq_false_iff.2 fun hclosed => ?_)
    rw [step.closed hclosed] at hopen
    cases hopen

/-- A run up to one of its operations, that operation, and the rest. -/
theorem RunOf.split {before after : List QueueEvent}
    (run : RunOf allowed start (before ++ e :: after) h') :
    ∃ h₁ h₂, RunOf allowed start before h₁ ∧ QueueStep h₁ e h₂ ∧ RunOf allowed h₂ after h' := by
  generalize hevents : before ++ e :: after = events at run
  induction run generalizing after with
  | start => simp at hevents
  | @step _ h h' _ run step kept ih =>
    obtain ⟨rfl, rfl, rfl⟩ | ⟨earlier, rfl, hearlier⟩ := split_snoc hevents.symm
    · exact ⟨h, h', run, step, .start⟩
    · obtain ⟨h₁, h₂, run₁, step₁, run₂⟩ := ih hearlier.symm
      exact ⟨h₁, h₂, run₁, step₁, run₂.step step kept⟩

/-- A mark stays until the work on its key ends: a key that is worked on
does not wait, so it is neither handed out nor dropped. -/
theorem QueueStep.mem_dirty (step : QueueStep h e h') (hs : h.queue.Sound)
    (hmark : key ∈ h.queue.dirty) (hne : e ≠ .finished key) : key ∈ h'.queue.dirty := by
  have hwork := hs.dirty_processing key hmark
  obtain hk | released := step.pending_or_released hs (.inr hmark)
  · refine hk.resolve_left fun hwait => ?_
    exact (step.sound hs).not_processing key hwait (step.mem_processing hwork hne)
  · exfalso
    cases released with
    | delivered =>
      cases step with
      | delivered pop =>
        obtain ⟨rest, horder, -⟩ := WorkQueue.order_of_pop pop
        exact hs.not_processing key (horder ▸ List.mem_cons_self) hwork
    | dropped drops =>
      obtain ⟨rest, horder⟩ := drops.oldest
      exact hs.not_processing key (horder ▸ List.mem_cons_self) hwork
    | discarded => exact hne rfl

theorem QueueRun.mem_dirty (run : QueueRun start events h) (hs : start.queue.Sound)
    (hmark : key ∈ start.queue.dirty) (hopen : .finished key ∉ events) : key ∈ h.queue.dirty := by
  induction run with
  | start => exact hmark
  | step run step ih =>
    rw [List.mem_append, List.mem_singleton, not_or] at hopen
    exact step.mem_dirty (run.sound hs).1 (ih hopen.1) (Ne.symm hopen.2)

/-- **A key that was added while somebody works on it is handed out
again**, once that work ends, after as many requests as there is room. -/
theorem RunOf.delivered_again {during after : List QueueEvent}
    (run : RunOf (fun h _ h' => ¬h.queue.Drops h'.queue key) start
      (during ++ .finished key :: after) h)
    (hs : start.queue.Sound) (hmark : key ∈ start.queue.dirty) (hduring : .finished key ∉ during)
    (hopen : h.queue.closed = false) :
    .delivered key ∈ after ∨
      (key ∈ h.queue.order ∧ after.countP QueueEvent.asks < start.queue.capacity) := by
  obtain ⟨h₁, h₂, run₁, step, run₂⟩ := run.split
  obtain ⟨hs₁, hcap₁⟩ := run₁.run.sound hs
  have hs₂ := step.sound hs₁
  -- the mark lasts until the work ends, which then puts the key at the end of an open queue
  have hmark₁ := run₁.run.mem_dirty hs hmark hduring
  have hcap₂ := step.capacity.trans hcap₁
  have hpos := hs.capacity_pos
  have hopen₂ := run₂.run.open_of_open hopen
  have hopen₁ : h₁.queue.closed = false :=
    Bool.eq_false_iff.2 fun hclosed => absurd (step.closed hclosed) (by simp [hopen₂])
  have hwait : key ∈ h₂.queue.order := by
    cases step with
    | finished => exact WorkQueue.order_done hmark₁ hopen₁
  obtain hout | ⟨m, hm, hle⟩ := run₂.delivered_or_behind hs₂ (hs₂.behind hwait)
  · exact .inl hout
  · exact .inr ⟨hm.mem, by omega⟩

/-- **No addition is lost.** From its addition to an open queue on, a key
is expected in every state, up to the one step that hands it out, drops it
from a full queue, or discards its mark after the shutdown. If somebody
works on the key when it is added, and neither a drop nor the shutdown
comes in between, it waits once that work is done and is handed out before
more keys are asked for than there is room. -/
theorem no_addition_is_lost {store : σ} {capacity : Nat} {calendar : Instant}
    (run : QueueRun (Hub.start store capacity calendar) events h)
    (hopen : h.queue.closed = false) (key : Key) :
    (∀ later h', RunOf (fun h e h' => ¬Released key h e h') (h.add key) later h' →
      h'.queue.Expects key ∧
        ∀ e h'', QueueStep h' e h'' → (h''.queue.Expects key ↔ ¬Released key h' e h'')) ∧
    (key ∈ h.queue.processing → ∀ during after h',
      RunOf (fun h _ h' => ¬h.queue.Drops h'.queue key) (h.add key)
        (during ++ .finished key :: after) h' →
      .finished key ∉ during → h'.queue.closed = false →
      .delivered key ∈ after ∨
        (key ∈ h'.queue.queued ∧ after.countP QueueEvent.asks < max capacity 1)) := by
  obtain ⟨hs, hcap⟩ := run.sound (WorkQueue.sound_withCapacity capacity)
  have hs' : (h.add key).queue.Sound := hs.add key
  have hk : (h.add key).queue.Pending key := WorkQueue.pending_add hs hopen key
  constructor
  · intro later h' run'
    have hs'' := (run'.run.sound hs').1
    have hk' := run'.pending hs' hk
    refine ⟨hs''.expects_iff.2 hk', fun e h'' step => ?_⟩
    rw [(step.sound hs'').expects_iff]
    constructor
    · intro hk'' released
      exact released.not_pending step hs'' hk''
    · exact (step.pending_or_released hs'' hk').resolve_right
  · intro hwork during after h' run' hduring hopen'
    have hwork' : key ∈ (h.add key).queue.processing := mem_processing_add hwork key
    -- a key that is worked on is not put into the queue but marked
    have hmark : key ∈ (h.add key).queue.dirty :=
      hk.resolve_left fun hwait => hs'.not_processing key hwait hwork'
    have hcap' : (h.add key).queue.capacity = max capacity 1 :=
      (QueueStep.added h key).capacity.trans hcap
    rw [← hcap', (run'.run.sound hs').1.mem_queued]
    exact run'.delivered_again hs' hmark hduring hopen'

/-- At a queue with room for one: the key that is done drops the one that
waits, waits itself, and is not handed out before somebody asks. -/
theorem no_addition_is_lost_to_another : ∃ h h' : Hub Unit,
    QueueRun (Hub.start () 1 Instant.epoch)
        [.added (Key.cluster "a"), .delivered (Key.cluster "a")] h ∧
      h.queue.closed = false ∧ Key.cluster "a" ∈ h.queue.processing ∧
      QueueRun (h.add (Key.cluster "a"))
        [.added (Key.cluster "b"), .finished (Key.cluster "a")] h' ∧
      h'.queue.dropped = 1 ∧ Key.cluster "a" ∈ h'.queue.queued := by
  let a := Key.cluster "a"
  let b := Key.cluster "b"
  have hother (rest : List Key) : [b] ≠ a :: rest := fun heq => by simp [a, b, Key.cluster] at heq
  let h := ((Hub.start () 1 Instant.epoch).add a).handOut a []
  let between := (h.add a).add b
  let h' : Hub Unit := { between with queue := between.queue.done a }
  have run : QueueRun (Hub.start () 1 Instant.epoch) [.added a, .delivered a] h :=
    (QueueRun.start.step (.added _ a)).step (.delivered rfl)
  have begun : RunOf (fun h _ h' => ¬h.queue.Drops h'.queue a) (h.add a) [] (h.add a) := .start
  -- the key that waits makes room for the one that is done, which itself is never dropped
  have later : RunOf (fun h _ h' => ¬h.queue.Drops h'.queue a) (h.add a)
      [.added b, .finished a] h' := begun
    |>.step (.added _ b) (fun drops => nomatch drops.counted)
    |>.step (.finished _ a) (fun drops => drops.oldest.elim hother)
  have hwork : a ∈ h.queue.processing := Hub.mem_processing_handOut a [] _
  have hended : h'.queue.dropped = 1 ∧ h'.queue.closed = false := by decide
  refine ⟨h, h', run, rfl, hwork, later.run, hended.1, ?_⟩
  have hduring : QueueEvent.finished a ∉ [.added b] := by simp
  have law := (no_addition_is_lost run rfl a).2 hwork [.added b] [] h' later hduring hended.2
  obtain hout | ⟨hwait, -⟩ := law
  · cases hout
  · exact hwait

end ClusterFleet
