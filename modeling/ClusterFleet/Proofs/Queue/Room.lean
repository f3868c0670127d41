import ClusterFleet.Proofs.Queue.Kept

/-!
# The work queue — a queue with room

Where there is room and nobody works on them, keys that are added wait in
the order in which they came (`Sound.addAll`). A key that was handed out and
let go of without having been added meanwhile leaves no trace
(`Sound.done_handedOut`), so a queue that is worked off one key after another
is the queue it was, less those keys.
-/

namespace ClusterFleet

namespace WorkQueue

variable {q q' : WorkQueue} {key : Key} {keys rest : List Key}

/-- Keys were put at the end of a queue, and nothing else changed. -/
structure Lengthened (q q' : WorkQueue) (keys : List Key) : Prop where
  sound : q'.Sound
  order : q'.order = q.order ++ keys
  processing : q'.processing = q.processing
  capacity : q'.capacity = q.capacity
  closed : q'.closed = q.closed

/-- A key that nobody works on waits at the end, where there is room. -/
theorem Sound.add_of_room (hs : q.Sound) (hopen : q.closed = false) (hwait : key ∉ q.order)
    (hwork : key ∉ q.processing) (hroom : q.order.length < q.capacity) :
    Lengthened q (q.add key) [key] := by
  have hqueued : key ∉ q.queued := fun hmem => hwait ((hs.mem_queued key).mp hmem)
  have hadd : q.add key = q.enqueue key := by
    obtain ⟨hclosed | hmem, -⟩ | ⟨-, -, hmem, -⟩ | ⟨-, -, -, heq⟩ := add_cases q key
    · cases hopen.symm.trans hclosed
    · exact absurd hmem hqueued
    · exact absurd hmem hwork
    · exact heq
  have hsound := hs.enqueue hwait hwork
  rw [hadd]
  refine ⟨hsound, ?_, enqueue_processing, enqueue_capacity, enqueue_closed⟩
  rw [enqueue_order, makeRoom_of_room hroom]

/-- **Keys that are added wait in their order**, where there is room for all
of them. -/
theorem Sound.addAll (hs : q.Sound) (hopen : q.closed = false) (hnodup : keys.Nodup)
    (hwait : ∀ key ∈ keys, key ∉ q.order) (hwork : ∀ key ∈ keys, key ∉ q.processing)
    (hroom : q.order.length + keys.length ≤ q.capacity) :
    Lengthened q (keys.foldl (fun q key => q.add key) q) keys := by
  induction keys generalizing q with
  | nil => exact ⟨hs, (List.append_nil _).symm, rfl, rfl, rfl⟩
  | cons key rest ih =>
    obtain ⟨hkey, hrest⟩ := List.nodup_cons.mp hnodup
    rw [List.length_cons] at hroom
    have hfirst := hs.add_of_room hopen (hwait key List.mem_cons_self)
      (hwork key List.mem_cons_self) (by omega)
    -- the other keys find a queue that is longer by one, and none of them in it
    have hlater := ih hfirst.sound (hfirst.closed.trans hopen) hrest (fun k hk => ?_)
      (fun k hk => ?_) ?_
    · refine ⟨hlater.sound, ?_, hlater.processing.trans hfirst.processing,
        hlater.capacity.trans hfirst.capacity, hlater.closed.trans hfirst.closed⟩
      change (rest.foldl _ (q.add key)).order = _
      rw [hlater.order, hfirst.order, List.append_assoc, List.singleton_append]
    · rw [hfirst.order, List.mem_append, List.mem_singleton]
      rintro (hmem | rfl)
      · exact hwait k (List.mem_cons_of_mem _ hk) hmem
      · exact hkey hk
    · rw [hfirst.processing]
      exact hwork k (List.mem_cons_of_mem _ hk)
    · rw [hfirst.order, hfirst.capacity, List.length_append, List.length_singleton]
      omega

/-- The queue after its oldest key was worked off. -/
def served (q : WorkQueue) (key : Key) (rest : List Key) : WorkQueue :=
  { q with order := rest, queued := withoutKey key q.queued }

theorem withoutKey_of_notMem (h : key ∉ keys) : withoutKey key keys = keys := by
  refine List.filter_eq_self.mpr fun k hk => ?_
  rw [decide_eq_true_iff]
  rintro rfl
  exact h hk

/-- **A key that was not added while it was worked on** leaves no trace. -/
theorem Sound.done_handedOut (hs : q.Sound) (horder : q.order = key :: rest) :
    (q.handedOut key rest).done key = q.served key rest := by
  have hwork : key ∉ q.processing := hs.not_processing key (horder ▸ List.mem_cons_self)
  have hdirty : key ∉ q.dirty := fun hmem => hwork (hs.dirty_processing key hmem)
  obtain ⟨hmem, -, -⟩ | ⟨-, heq⟩ := done_cases (q.handedOut key rest) key
  · exact absurd hmem hdirty
  · have hprocessing : withoutKey key (withKey key q.processing) = q.processing := by
      rw [withKey, if_neg hwork, withoutKey, List.filter_cons, if_neg (by simp)]
      exact withoutKey_of_notMem hwork
    rw [heq]
    change { q.served key rest with
      processing := withoutKey key (withKey key q.processing), dirty := withoutKey key q.dirty } = _
    rw [hprocessing, withoutKey_of_notMem hdirty]
    rfl

theorem Sound.served (hs : q.Sound) (horder : q.order = key :: rest) : (q.served key rest).Sound := by
  rw [← hs.done_handedOut horder]
  exact (hs.handedOut horder).done key

end WorkQueue

end ClusterFleet
