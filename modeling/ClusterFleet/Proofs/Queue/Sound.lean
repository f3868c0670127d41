import ClusterFleet.Hub.WorkQueue
import Mathlib.Data.List.Basic
import Mathlib.Data.List.Nodup

/-!
# The work queue — what every operation keeps

The queue holds its keys in four lists, and each operation edits several
of them. `Sound` says how the lists hang together: the waiting list and
the waiting set agree, nobody works on a key that waits, and only a key
somebody works on is marked for another turn. `add`, `pop`, `done` and
`shutdown` each keep it.
-/

namespace ClusterFleet

namespace WorkQueue

variable {q : WorkQueue} {key k : Key} {rest : List Key}

/-- The four lists of a queue agree. -/
structure Sound (q : WorkQueue) : Prop where
  capacity_pos : 0 < q.capacity
  nodup : q.order.Nodup
  /-- The waiting set is the set of waiting keys. -/
  mem_queued : ∀ k, k ∈ q.queued ↔ k ∈ q.order
  /-- No more keys wait than there is room for. -/
  bounded : q.order.length ≤ q.capacity
  /-- Nobody works on a key that waits. -/
  not_processing : ∀ k ∈ q.order, k ∉ q.processing
  /-- Somebody works on every marked key. -/
  dirty_processing : ∀ k ∈ q.dirty, k ∈ q.processing

/-! ## The sets -/

@[simp] theorem mem_withKey {keys : List Key} : k ∈ withKey key keys ↔ k = key ∨ k ∈ keys := by
  unfold withKey
  split
  · rename_i h
    constructor
    · exact Or.inr
    · rintro (rfl | hk)
      · exact h
      · exact hk
  · exact List.mem_cons

@[simp] theorem mem_withoutKey {keys : List Key} : k ∈ withoutKey key keys ↔ k ∈ keys ∧ k ≠ key := by
  simp [withoutKey]

/-! ## Making room -/

/-- What making room does: nothing where there is room, and otherwise
the oldest key goes and is counted. -/
theorem makeRoom_cases (q : WorkQueue) :
    (q.makeRoom = q ∧ (q.order.length < q.capacity ∨ q.order = [])) ∨
      ∃ oldest rest, q.order = oldest :: rest ∧ q.makeRoom =
        { q with
          order := rest, queued := withoutKey oldest q.queued, dropped := q.dropped + 1 } := by
  unfold makeRoom
  by_cases hfull : q.capacity ≤ q.order.length
  · rw [if_pos hfull]
    split
    · rename_i hnil
      exact Or.inl ⟨rfl, Or.inr hnil⟩
    · rename_i oldest rest hcons
      exact Or.inr ⟨oldest, rest, hcons, rfl⟩
  · rw [if_neg hfull]
    exact Or.inl ⟨rfl, Or.inl (by omega)⟩

/-- Without the oldest key, the set of those that wait is that of the
others. -/
theorem Sound.mem_others (h : q.Sound) (hcons : q.order = oldest :: rest) (k : Key) :
    k ∈ withoutKey oldest q.queued ↔ k ∈ rest := by
  have hnodup := h.nodup
  rw [hcons, List.nodup_cons] at hnodup
  rw [mem_withoutKey, h.mem_queued, hcons, List.mem_cons]
  constructor
  · rintro ⟨rfl | hk, hne⟩
    · exact absurd rfl hne
    · exact hk
  · intro hk
    exact ⟨Or.inr hk, fun he => hnodup.1 (he ▸ hk)⟩

/-- Making room keeps the lists in agreement. -/
theorem Sound.makeRoom (h : q.Sound) : q.makeRoom.Sound := by
  obtain ⟨heq, -⟩ | ⟨oldest, rest, hcons, heq⟩ := makeRoom_cases q
  · rwa [heq]
  · have hnodup := h.nodup
    rw [hcons, List.nodup_cons] at hnodup
    rw [heq]
    refine ⟨h.capacity_pos, hnodup.2, h.mem_others hcons, ?_, fun k hk => ?_, h.dirty_processing⟩
    · have := h.bounded
      rw [hcons, List.length_cons] at this
      exact Nat.le_of_succ_le this
    · exact h.not_processing k (hcons ▸ List.mem_cons_of_mem _ hk)

/-- After room was made there is room. -/
theorem Sound.length_makeRoom_lt (h : q.Sound) : q.makeRoom.order.length < q.capacity := by
  obtain ⟨heq, hroom | hnil⟩ | ⟨oldest, rest, hcons, heq⟩ := makeRoom_cases q
  · rwa [heq]
  · rw [heq, hnil]
    exact h.capacity_pos
  · have := h.bounded
    rw [hcons, List.length_cons] at this
    rw [heq]
    exact this

/-- Making room takes no key in. -/
theorem mem_of_mem_makeRoom (h : k ∈ q.makeRoom.order) : k ∈ q.order := by
  obtain ⟨heq, -⟩ | ⟨oldest, rest, hcons, heq⟩ := makeRoom_cases q
  · rwa [heq] at h
  · rw [heq] at h
    exact hcons ▸ List.mem_cons_of_mem _ h

/-! ## Putting a key at the end -/

@[simp] theorem makeRoom_capacity : q.makeRoom.capacity = q.capacity := by
  obtain ⟨heq, -⟩ | ⟨_, _, -, heq⟩ := makeRoom_cases q <;> rw [heq]

@[simp] theorem makeRoom_processing : q.makeRoom.processing = q.processing := by
  obtain ⟨heq, -⟩ | ⟨_, _, -, heq⟩ := makeRoom_cases q <;> rw [heq]

@[simp] theorem makeRoom_dirty : q.makeRoom.dirty = q.dirty := by
  obtain ⟨heq, -⟩ | ⟨_, _, -, heq⟩ := makeRoom_cases q <;> rw [heq]

@[simp] theorem makeRoom_closed : q.makeRoom.closed = q.closed := by
  obtain ⟨heq, -⟩ | ⟨_, _, -, heq⟩ := makeRoom_cases q <;> rw [heq]

@[simp] theorem enqueue_capacity : (q.enqueue key).capacity = q.capacity := makeRoom_capacity

@[simp] theorem enqueue_processing : (q.enqueue key).processing = q.processing :=
  makeRoom_processing

@[simp] theorem enqueue_dirty : (q.enqueue key).dirty = q.dirty := makeRoom_dirty

@[simp] theorem enqueue_closed : (q.enqueue key).closed = q.closed := makeRoom_closed

@[simp] theorem enqueue_order : (q.enqueue key).order = q.makeRoom.order ++ [key] := rfl

/-- Putting a key at the end keeps the lists in agreement, if the key
neither waits nor is worked on. -/
theorem Sound.enqueue (h : q.Sound) (hwait : key ∉ q.order) (hwork : key ∉ q.processing) :
    (q.enqueue key).Sound := by
  have hroom := h.makeRoom
  have hfresh : key ∉ q.makeRoom.order := fun hk => hwait (mem_of_mem_makeRoom hk)
  refine ⟨?_, ?_, fun k => ?_, ?_, fun k hk => ?_, ?_⟩
  · rw [enqueue_capacity]
    exact h.capacity_pos
  · rw [enqueue_order, List.nodup_append]
    refine ⟨hroom.nodup, List.nodup_singleton key, fun a ha b hb hab => hfresh ?_⟩
    rw [List.mem_singleton] at hb
    exact hb ▸ hab ▸ ha
  · change k ∈ withKey key q.makeRoom.queued ↔ k ∈ q.makeRoom.order ++ [key]
    rw [mem_withKey, hroom.mem_queued, List.mem_append, List.mem_singleton, or_comm]
  · have := h.length_makeRoom_lt
    rw [enqueue_order, enqueue_capacity, List.length_append, List.length_singleton]
    omega
  · rw [enqueue_order, List.mem_append, List.mem_singleton] at hk
    rw [enqueue_processing]
    rcases hk with hk | rfl
    · exact h.not_processing k (mem_of_mem_makeRoom hk)
    · exact hwork
  · rw [enqueue_dirty, enqueue_processing]
    exact h.dirty_processing

/-! ## The four operations -/

/-- The three things an addition can do: nothing, a mark, or a key at the
end. -/
theorem add_cases (q : WorkQueue) (key : Key) :
    ((q.closed = true ∨ key ∈ q.queued) ∧ q.add key = q) ∨
      (q.closed = false ∧ key ∉ q.queued ∧ key ∈ q.processing ∧
        q.add key = { q with dirty := withKey key q.dirty }) ∨
      (q.closed = false ∧ key ∉ q.queued ∧ key ∉ q.processing ∧ q.add key = q.enqueue key) := by
  unfold add accepts
  by_cases hclosed : q.closed = true
  · exact Or.inl ⟨Or.inl hclosed, by simp [hclosed]⟩
  · rw [Bool.not_eq_true] at hclosed
    by_cases hqueued : key ∈ q.queued
    · exact Or.inl ⟨Or.inr hqueued, by simp [hqueued]⟩
    · by_cases hwork : key ∈ q.processing
      · exact Or.inr (Or.inl ⟨hclosed, hqueued, hwork, by simp [hclosed, hqueued, hwork]⟩)
      · exact Or.inr (Or.inr ⟨hclosed, hqueued, hwork, by simp [hclosed, hqueued, hwork]⟩)

/-- An addition keeps the lists in agreement. -/
theorem Sound.add (h : q.Sound) (key : Key) : (q.add key).Sound := by
  obtain ⟨-, heq⟩ | ⟨-, -, hwork, heq⟩ | ⟨-, hqueued, hwork, heq⟩ := add_cases q key
  · rwa [heq]
  · rw [heq]
    refine ⟨h.capacity_pos, h.nodup, h.mem_queued, h.bounded, h.not_processing, fun k hk => ?_⟩
    rcases mem_withKey.1 hk with rfl | hk
    · exact hwork
    · exact h.dirty_processing k hk
  · rw [heq]
    exact h.enqueue (fun hk => hqueued ((h.mem_queued key).2 hk)) hwork

/-- The queue after its oldest key was handed out. -/
def handedOut (q : WorkQueue) (key : Key) (rest : List Key) : WorkQueue :=
  { q with
    order := rest
    queued := withoutKey key q.queued
    processing := withKey key q.processing }

/-- Handing out gives the oldest key, and nothing where none waits. -/
theorem pop_of_order (h : q.order = key :: rest) :
    q.pop = (.key key, q.handedOut key rest) := by
  unfold pop
  rw [h]
  rfl

theorem pop_of_nil (h : q.order = []) : q.pop = (if q.closed then .closed else .wait, q) := by
  unfold pop
  rw [h]

/-- What is handed out was the oldest key. -/
theorem order_of_pop {after : WorkQueue} (h : q.pop = (.key key, after)) :
    ∃ rest, q.order = key :: rest ∧ after = q.handedOut key rest := by
  cases horder : q.order with
  | nil =>
    rw [pop_of_nil horder] at h
    by_cases hclosed : q.closed = true <;> simp [hclosed] at h
  | cons first rest =>
    rw [pop_of_order horder] at h
    simp only [Prod.mk.injEq, Delivery.key.injEq] at h
    obtain ⟨rfl, rfl⟩ := h
    exact ⟨rest, rfl, rfl⟩

/-- Handing out the oldest key keeps the lists in agreement. -/
theorem Sound.handedOut (h : q.Sound) (horder : q.order = key :: rest) :
    (q.handedOut key rest).Sound := by
  have hnodup := h.nodup
  rw [horder, List.nodup_cons] at hnodup
  refine ⟨h.capacity_pos, hnodup.2, h.mem_others horder, ?_, fun k hk => ?_, fun k hk => ?_⟩
  · have := h.bounded
    rw [horder, List.length_cons] at this
    exact Nat.le_of_succ_le this
  · change k ∉ withKey key q.processing
    rw [mem_withKey]
    rintro (rfl | hwork)
    · exact hnodup.1 hk
    · exact h.not_processing k (horder ▸ List.mem_cons_of_mem _ hk) hwork
  · exact mem_withKey.2 (Or.inr (h.dirty_processing k hk))

/-- The queue after a key was let go of, before it may come back. -/
def letGo (q : WorkQueue) (key : Key) : WorkQueue :=
  { q with processing := withoutKey key q.processing, dirty := withoutKey key q.dirty }

/-- The end of the work on a key lets go of it, and puts it at the end if
it was marked and the queue is open. -/
theorem done_cases (q : WorkQueue) (key : Key) :
    (key ∈ q.dirty ∧ q.closed = false ∧ q.done key = (q.letGo key).enqueue key) ∨
      ((key ∉ q.dirty ∨ q.closed = true) ∧ q.done key = q.letGo key) := by
  unfold done requeues
  by_cases hdirty : key ∈ q.dirty
  · by_cases hclosed : q.closed = true
    · exact Or.inr ⟨Or.inr hclosed, by simp [hclosed, letGo]⟩
    · rw [Bool.not_eq_true] at hclosed
      exact Or.inl ⟨hdirty, hclosed, by simp [hdirty, hclosed, letGo]⟩
  · exact Or.inr ⟨Or.inl hdirty, by simp [hdirty, letGo]⟩

/-- Letting go of a key keeps the lists in agreement. -/
theorem Sound.letGo (h : q.Sound) (key : Key) : (q.letGo key).Sound := by
  refine ⟨h.capacity_pos, h.nodup, h.mem_queued, h.bounded, fun k hk hwork => ?_, fun k hk => ?_⟩
  · exact h.not_processing k hk (mem_withoutKey.1 hwork).1
  · obtain ⟨hk, hne⟩ := mem_withoutKey.1 hk
    exact mem_withoutKey.2 ⟨h.dirty_processing k hk, hne⟩

/-- The end of the work on any key, also one nobody works on, keeps the
lists in agreement. -/
theorem Sound.done (h : q.Sound) (key : Key) : (q.done key).Sound := by
  obtain ⟨hdirty, -, heq⟩ | ⟨-, heq⟩ := done_cases q key
  · rw [heq]
    refine (h.letGo key).enqueue (fun hwait => ?_) (fun hwork => ?_)
    · exact h.not_processing key hwait (h.dirty_processing key hdirty)
    · exact (mem_withoutKey.1 hwork).2 rfl
  · rw [heq]
    exact h.letGo key

/-- Shutting down keeps the lists in agreement. -/
theorem Sound.shutdown (h : q.Sound) : q.shutdown.Sound :=
  ⟨h.capacity_pos, h.nodup, h.mem_queued, h.bounded, h.not_processing, h.dirty_processing⟩

/-- A new queue is sound. -/
theorem sound_withCapacity (n : Nat) : (withCapacity n).Sound :=
  ⟨Nat.lt_of_lt_of_le Nat.one_pos (Nat.le_max_right n 1), List.nodup_nil, fun _ => Iff.rfl,
    Nat.zero_le _, fun _ hk => absurd hk List.not_mem_nil, fun _ hk => absurd hk List.not_mem_nil⟩

end WorkQueue

end ClusterFleet
