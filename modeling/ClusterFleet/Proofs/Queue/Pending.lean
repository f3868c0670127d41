import ClusterFleet.Proofs.Hub.Step
import ClusterFleet.Proofs.Queue.Sound

/-!
# The work queue — what an addition is worth

A key that was added is `Pending`: it waits, or is marked for another turn.
It stays so until it is handed out, unless a full queue drops it. `Grows`
puts this for a hub: what a delayed addition has in store for a key counts
too (`Awaits`), and whatever happens but a handing out keeps it as long as
nothing is dropped.
-/

namespace ClusterFleet

namespace WorkQueue

variable {q : WorkQueue} {key k : Key}

/-- A key waits, or will when the work on it ends. -/
def Pending (q : WorkQueue) (k : Key) : Prop :=
  k ∈ q.order ∨ k ∈ q.dirty

/-- Making room drops a key and counts it, or leaves all keys. -/
theorem makeRoom_dropped (q : WorkQueue) :
    q.dropped ≤ q.makeRoom.dropped ∧ (q.makeRoom.dropped = q.dropped → q.makeRoom = q) := by
  obtain ⟨heq, -⟩ | ⟨oldest, rest, -, heq⟩ := makeRoom_cases q
  · rw [heq]
    exact ⟨Nat.le_refl _, fun _ => rfl⟩
  · rw [heq]
    refine ⟨Nat.le_succ _, fun h => ?_⟩
    change q.dropped + 1 = q.dropped at h
    omega

theorem enqueue_dropped (q : WorkQueue) (key : Key) :
    q.dropped ≤ (q.enqueue key).dropped ∧
      ((q.enqueue key).dropped = q.dropped → ∀ k, q.Pending k → (q.enqueue key).Pending k) := by
  obtain ⟨hle, hsame⟩ := makeRoom_dropped q
  refine ⟨hle, fun h k hk => ?_⟩
  have horder : (q.enqueue key).order = q.order ++ [key] := by rw [enqueue_order, hsame h]
  rcases hk with hk | hk
  · exact .inl (horder ▸ List.mem_append_left _ hk)
  · exact .inr (by rwa [enqueue_dirty])

/-- What is put at the end waits. -/
theorem pending_enqueue (q : WorkQueue) (key : Key) : (q.enqueue key).Pending key :=
  .inl (by rw [enqueue_order]; exact List.mem_append_right _ (List.mem_singleton.mpr rfl))

/-- **An addition** makes its key pending, if the queue is open, and keeps
what is pending, if nothing is dropped. -/
theorem pending_add (hs : q.Sound) (hopen : q.closed = false) (key : Key) :
    (q.add key).Pending key := by
  obtain ⟨hclosed | hqueued, heq⟩ | ⟨-, -, -, heq⟩ | ⟨-, -, -, heq⟩ := add_cases q key
  · rw [hopen] at hclosed
    cases hclosed
  · rw [heq]
    exact .inl ((hs.mem_queued key).1 hqueued)
  · rw [heq]
    exact .inr (mem_withKey.2 (.inl rfl))
  · rw [heq]
    exact pending_enqueue q key

theorem add_dropped (q : WorkQueue) (key : Key) :
    q.dropped ≤ (q.add key).dropped ∧
      ((q.add key).dropped = q.dropped → ∀ k, q.Pending k → (q.add key).Pending k) := by
  obtain ⟨-, heq⟩ | ⟨-, -, -, heq⟩ | ⟨-, -, -, heq⟩ := add_cases q key
  · rw [heq]
    exact ⟨Nat.le_refl _, fun _ _ hk => hk⟩
  · rw [heq]
    exact ⟨Nat.le_refl _, fun _ k hk => hk.imp_right fun h => mem_withKey.2 (.inr h)⟩
  · rw [heq]
    exact enqueue_dropped q key

@[simp] theorem add_closed (q : WorkQueue) (key : Key) : (q.add key).closed = q.closed := by
  obtain ⟨-, heq⟩ | ⟨-, -, -, heq⟩ | ⟨-, -, -, heq⟩ := add_cases q key <;> rw [heq]
  exact enqueue_closed

theorem add_processing (q : WorkQueue) (key : Key) : (q.add key).processing = q.processing := by
  obtain ⟨-, heq⟩ | ⟨-, -, -, heq⟩ | ⟨-, -, -, heq⟩ := add_cases q key <;> rw [heq]
  exact enqueue_processing

@[simp] theorem done_closed (q : WorkQueue) (key : Key) : (q.done key).closed = q.closed := by
  obtain ⟨-, -, heq⟩ | ⟨-, heq⟩ := done_cases q key <;> rw [heq]
  · exact enqueue_closed
  · rfl

/-- **The end of the work on a key** keeps what is pending, this key
too. -/
theorem done_dropped (hopen : q.closed = false) (key : Key) :
    q.dropped ≤ (q.done key).dropped ∧
      ((q.done key).dropped = q.dropped → ∀ k, q.Pending k → (q.done key).Pending k) := by
  have hrest (k : Key) (hk : q.Pending k) (hne : k ≠ key) : (q.letGo key).Pending k :=
    hk.imp_right fun h => mem_withoutKey.2 ⟨h, hne⟩
  obtain ⟨hdirty, -, heq⟩ | ⟨hclean | hclosed, heq⟩ := done_cases q key
  · rw [heq]
    obtain ⟨hle, hkeep⟩ := enqueue_dropped (q.letGo key) key
    refine ⟨hle, fun h k hk => ?_⟩
    by_cases hne : k = key
    · rw [hne]
      exact pending_enqueue _ _
    · exact hkeep h k (hrest k hk hne)
  · rw [heq]
    refine ⟨Nat.le_refl _, fun _ k hk => ?_⟩
    by_cases hne : k = key
    · exact .inl (hk.resolve_right (hne ▸ hclean))
    · exact hrest k hk hne
  · rw [hopen] at hclosed
    cases hclosed

/-- A handing out keeps every other key pending. -/
theorem pending_handedOut {rest : List Key} (horder : q.order = key :: rest) (hk : q.Pending k)
    (hne : k ≠ key) : (q.handedOut key rest).Pending k := by
  rcases hk with hk | hk
  · rw [horder] at hk
    exact .inl ((List.mem_cons.mp hk).resolve_left hne)
  · exact .inr hk

end WorkQueue

namespace Hub

variable {σ : Type} {h h' h'' : Hub σ} {key k : Key}

/-- A key is pending, or a delayed addition will make it so. -/
def Awaits (h : Hub σ) (k : Key) : Prop :=
  h.queue.Pending k ∨ ∃ d ∈ h.delayed, d.key = k

/-- **The queue of a hub grows**: it stays sound and open, and no key that
awaits its turn is forgotten unless one is dropped. -/
structure Grows (h h' : Hub σ) : Prop where
  sound : h'.queue.Sound
  closed : h'.queue.closed = false
  dropped : h.queue.dropped ≤ h'.queue.dropped
  /-- No key is forgotten. -/
  awaits : h'.queue.dropped = h.queue.dropped → ∀ k, h.Awaits k → h'.Awaits k
  /-- Nobody lets go of a key. -/
  processing : ∀ k ∈ h.queue.processing, k ∈ h'.queue.processing

theorem Grows.refl (hs : h.queue.Sound) (hopen : h.queue.closed = false) : Grows h h :=
  ⟨hs, hopen, Nat.le_refl _, fun _ _ hk => hk, fun _ hk => hk⟩

theorem Grows.trans (g : Grows h h') (g' : Grows h' h'') : Grows h h'' := by
  refine ⟨g'.sound, g'.closed, Nat.le_trans g.dropped g'.dropped, fun heq k hk => ?_,
    fun k hk => g'.processing k (g.processing k hk)⟩
  have := g.dropped
  have := g'.dropped
  exact g'.awaits (by omega) k (g.awaits (by omega) k hk)

/-- Where nothing is dropped in the end, nothing was dropped on the way. -/
theorem Grows.kept (g : Grows h h') (hzero : h'.queue.dropped = 0) :
    h.queue.dropped = 0 ∧ h'.queue.dropped = h.queue.dropped := by
  have := g.dropped
  omega

/-- Where queue and delayed additions are the same, nothing is
forgotten. -/
theorem Grows.of_same (hs : h.queue.Sound) (hopen : h.queue.closed = false)
    (hqueue : h'.queue = h.queue) (hdelayed : h'.delayed = h.delayed) : Grows h h' := by
  refine ⟨hqueue ▸ hs, hqueue ▸ hopen, Nat.le_of_eq (by rw [hqueue]), fun _ k hk => ?_,
    fun k hk => hqueue ▸ hk⟩
  rwa [Awaits, hqueue, hdelayed]

theorem Grows.add (hs : h.queue.Sound) (hopen : h.queue.closed = false) (key : Key) :
    Grows h (h.add key) ∧ (h.add key).Awaits key := by
  obtain ⟨hle, hkeep⟩ := WorkQueue.add_dropped h.queue key
  have hwork : (h.add key).queue.processing = h.queue.processing := WorkQueue.add_processing _ _
  refine ⟨⟨hs.add key, (WorkQueue.add_closed _ _).trans hopen, hle, fun heq k hk => ?_,
    fun k hk => hwork ▸ hk⟩, .inl (WorkQueue.pending_add hs hopen key)⟩
  exact hk.imp_left (hkeep heq k)

theorem Grows.goOff (hs : h.queue.Sound) (hopen : h.queue.closed = false) (d : Delayed) :
    Grows h (h.goOff d) := by
  obtain ⟨hle, hkeep⟩ := WorkQueue.add_dropped h.queue d.key
  have hwork : (h.goOff d).queue.processing = h.queue.processing := WorkQueue.add_processing _ _
  refine ⟨hs.add d.key, (WorkQueue.add_closed _ _).trans hopen, hle, fun heq k hk => ?_,
    fun k hk => hwork ▸ hk⟩
  rcases hk with hk | ⟨e, he, hkey⟩
  · exact .inl (hkeep heq k hk)
  · by_cases hd : e = d
    · rw [← hkey, hd]
      exact .inl (WorkQueue.pending_add hs hopen d.key)
    · exact .inr ⟨e, (List.mem_erase_of_ne hd).mpr he, hkey⟩

theorem Grows.addAfter (hs : h.queue.Sound) (hopen : h.queue.closed = false) (key : Key)
    (delay : Span) : Grows h (h.addAfter key delay) ∧ (h.addAfter key delay).Awaits key := by
  unfold Hub.addAfter
  split
  · exact Grows.add hs hopen key
  · refine ⟨⟨hs, hopen, Nat.le_refl _, fun _ k hk => ?_, fun _ hk => hk⟩, ?_⟩
    · exact hk.imp_right fun ⟨d, hd, hkey⟩ => ⟨d, List.mem_append_left _ hd, hkey⟩
    · exact .inr ⟨_, List.mem_append_right _ (List.mem_singleton.mpr rfl), rfl⟩

/-- Passing time forgets no key. -/
theorem Grows.passes (hs : h.queue.Sound) (hopen : h.queue.closed = false)
    (passes : h.Passes h') : Grows h h' := by
  induction passes with
  | rest => exact .refl hs hopen
  | goesOn before later ih =>
    exact ih.trans (.of_same ih.sound ih.closed rfl rfl)
  | wentOff before waits due ih => exact ih.trans (.goOff ih.sound ih.closed _)

/-- **The queue after the turn of a key**: the key was handed out, and what
else happened forgot no other key, and let go of none. -/
structure Turned (key : Key) (h h' : Hub σ) : Prop where
  sound : h'.queue.Sound
  closed : h'.queue.closed = false
  dropped : h.queue.dropped ≤ h'.queue.dropped
  /-- No other key is forgotten. -/
  awaits : h'.queue.dropped = h.queue.dropped → ∀ k, k ≠ key → h.Awaits k → h'.Awaits k
  /-- Nobody lets go of another key. -/
  processing : ∀ k ∈ h.queue.processing, k ≠ key → k ∈ h'.queue.processing

theorem Turned.kept (turned : Turned key h h') (hzero : h'.queue.dropped = 0) :
    h.queue.dropped = 0 ∧ h'.queue.dropped = h.queue.dropped := by
  have := turned.dropped
  omega

/-- The hub after its oldest key was handed out. -/
def handOut (h : Hub σ) (key : Key) (rest : List Key) : Hub σ :=
  { h with queue := h.queue.handedOut key rest }

theorem handOut_sound {rest : List Key} (hs : h.queue.Sound) (horder : h.queue.order = key :: rest) :
    (h.handOut key rest).queue.Sound := hs.handedOut horder

theorem mem_processing_handOut (key : Key) (rest : List Key) (h : Hub σ) :
    key ∈ (h.handOut key rest).queue.processing := WorkQueue.mem_withKey.2 (.inl rfl)

/-- A key that was handed out and is not done has had its turn. -/
theorem Turned.of_grows {rest : List Key} (horder : h.queue.order = key :: rest)
    (grows : (h.handOut key rest).Grows h') : Turned key h h' := by
  refine ⟨grows.sound, grows.closed, grows.dropped, fun heq k hne hk => ?_, fun k hk _ => ?_⟩
  · exact grows.awaits heq k
      (hk.imp_left fun hk => WorkQueue.pending_handedOut horder hk hne)
  · exact grows.processing k (WorkQueue.mem_withKey.2 (.inr hk))

/-- The end of the work on a key forgets no key. -/
theorem awaits_done (hopen : h.queue.closed = false)
    (heq : (h.queue.done key).dropped = h.queue.dropped) (hk : h.Awaits k) :
    ({ h with queue := h.queue.done key } : Hub σ).Awaits k :=
  hk.imp_left ((WorkQueue.done_dropped hopen key).2 heq k)

theorem mem_processing_done (hk : k ∈ h.queue.processing) (hne : k ≠ key) :
    k ∈ (h.queue.done key).processing := by
  have hkeep : k ∈ (h.queue.letGo key).processing := WorkQueue.mem_withoutKey.2 ⟨hk, hne⟩
  obtain ⟨-, -, heq⟩ | ⟨-, heq⟩ := WorkQueue.done_cases h.queue key <;> rw [heq]
  · rwa [WorkQueue.enqueue_processing]
  · exact hkeep

/-- The end of the work on a key ends its turn. -/
theorem Turned.done (turned : Turned key h h') :
    Turned key h { h' with queue := h'.queue.done key } := by
  have hle := (WorkQueue.done_dropped turned.closed key).1
  have hdropped := turned.dropped
  refine ⟨turned.sound.done key, (WorkQueue.done_closed _ _).trans turned.closed,
    Nat.le_trans hdropped hle, fun heq k hne hk => ?_, fun k hk hne => ?_⟩
  · change (h'.queue.done key).dropped = h.queue.dropped at heq
    exact awaits_done turned.closed (by omega) (turned.awaits (by omega) k hne hk)
  · exact mem_processing_done (turned.processing k hk hne) hne

end Hub

end ClusterFleet
