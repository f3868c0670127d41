import ClusterFleet.Proofs.Store.Requests

/-!
# Store — later stores

A store grows older by requests, by changes of the authority and by faults
that are planted. Whatever happens, an object that is found later was there
before or carries a version given out since (`Later`). So a version tells
states of an object apart: `IsKnown` says that a state which was read is the
stored one if the versions agree, and it stays true however old the store
grows.
-/

namespace ClusterFleet

namespace MemoryStore

/-- A change that does not come from a client: the authority puts, changes
or removes an object, or a fault is planted. -/
inductive Edit : MemoryStore → MemoryStore → Prop
  | put (kind : Kind) (r : Resource) (s : MemoryStore) : Edit s (s.put kind r).2
  | modify (kind : Kind) (key : Key) (change : Resource → Resource) (s : MemoryStore) :
      Edit s (s.modify kind key change).2
  | remove (kind : Kind) (key : Key) (s : MemoryStore) : Edit s (s.remove kind key).2
  | plantReadFault (fault : StoreError) (s : MemoryStore) : Edit s (s.plantReadFault fault)
  | plantWriteFault (fault : StoreError) (s : MemoryStore) : Edit s (s.plantWriteFault fault)
  | plantConflicts (n : Nat) (s : MemoryStore) : Edit s (s.plantConflicts n)

/-- **A later store**: sound, with no fewer versions given out, and every
object it holds was there before or carries a version given out since. -/
structure Later (s s' : MemoryStore) : Prop where
  sound : s'.Sound
  versions : s.versions ≤ s'.versions
  /-- Every object is an old one or has a new version. -/
  objects : ∀ {kind : Kind} {key : Key} {r : Resource}, s'.object? kind key = some r →
    s.object? kind key = some r ∨
      ∃ n, s.versions < n ∧ n ≤ s'.versions ∧ r.metadata.version = some (Decimal.text n)

variable {s s' s'' : MemoryStore} {kind kind' : Kind} {key key' : Key} {r stored : Resource}

namespace Later

theorem refl (hs : s.Sound) : Later s s := ⟨hs, Nat.le_refl _, .inl⟩

theorem trans (h : Later s s') (h' : Later s' s'') : Later s s'' := by
  refine ⟨h'.sound, Nat.le_trans h.versions h'.versions, fun hr => ?_⟩
  rcases h'.objects hr with hr | ⟨n, hlt, hle, hn⟩
  · rcases h.objects hr with hr | ⟨n, hlt, hle, hn⟩
    · exact .inl hr
    · exact .inr ⟨n, hlt, Nat.le_trans hle h'.versions, hn⟩
  · exact .inr ⟨n, Nat.lt_of_le_of_lt h.versions hlt, hle, hn⟩

theorem of_consulted (hs : s.Sound) (h : Consulted s s') : Later s s' :=
  ⟨h.sound hs, Nat.le_of_eq h.versions.symm, fun hr => .inl (by rwa [h.object?] at hr)⟩

/-- A store that holds an object at the next version is later. -/
theorem of_hold (hs : s.Sound) (kind : Kind) (huid : r.metadata.uid.isSome = true) :
    Later s (s.hold kind r) := by
  refine ⟨hs.hold kind huid, Nat.le_succ _, fun {kind' key' r'} hr => ?_⟩
  rw [object?_hold] at hr
  split at hr
  · obtain rfl := Option.some.inj hr
    exact .inr ⟨s.versions + 1, Nat.lt_succ_self _, Nat.le_refl _, rfl⟩
  · exact .inl hr

theorem of_put (hs : s.Sound) (kind : Kind) (r : Resource) : Later s (s.put kind r).2 :=
  (of_hold hs kind (identified_uid r s)).trans
    (of_consulted (hs.hold kind (identified_uid r s)) (put_eq kind r s).2)

theorem of_edit (hs : s.Sound) (h : Edit s s') : Later s s' := by
  cases h with
  | put kind r => exact of_put hs kind r
  | modify kind key change =>
    rw [hs.modify_eq]
    cases s.object? kind key with
    | none => exact refl hs
    | some r => exact of_put hs kind (change r)
  | remove kind key =>
    refine ⟨hs.remove kind key, Nat.le_refl _, fun hr => .inl ?_⟩
    rw [object?_remove] at hr
    split at hr
    · cases hr
    · exact hr
  | plantReadFault => exact ⟨⟨hs.written, hs.nodup⟩, Nat.le_refl _, .inl⟩
  | plantWriteFault => exact ⟨⟨hs.written, hs.nodup⟩, Nat.le_refl _, .inl⟩
  | plantConflicts => exact ⟨⟨hs.written, hs.nodup⟩, Nat.le_refl _, .inl⟩

end Later

/-- The identity of what is found is what a merge keeps. -/
theorem Sound.merged_uid (hs : s.Sound) (h : s.object? kind key = some stored) (object : Resource) :
    (merged stored object).metadata.uid.isSome = true :=
  (hs.found h).2.1.uid

/-- A status write makes the store later. -/
theorem Later.of_updateStatus (hs : s.Sound) (kind : Kind) (object : Resource) :
    Later s (s.updateStatus kind object).2 := by
  rcases hs.updateStatus_cases kind object with ⟨e, -, -, hsame⟩ | ⟨stored, hstored, -, -, hheld⟩
  · exact of_consulted hs hsame
  · have huid := hs.merged_uid hstored object
    exact (of_hold hs kind huid).trans (of_consulted (hs.hold kind huid) hheld)

/-- A state of an object that was read: it is the stored one if it has the
version of the stored one. -/
structure IsKnown (s : MemoryStore) (kind : Kind) (key : Key) (r : Resource) : Prop where
  keyed : r.key = key
  numbered : IsNumbered s.versions r
  /-- What is stored at its version is itself. -/
  same : ∀ stored, s.object? kind key = some stored →
    stored.metadata.version = r.metadata.version → stored = r

theorem IsKnown.of_found (hs : s.Sound) (h : s.object? kind key = some r) :
    IsKnown s kind key r := by
  obtain ⟨hkey, hnumbered, -⟩ := hs.found h
  refine ⟨hkey, hnumbered, fun stored hstored _ => ?_⟩
  rw [h] at hstored
  exact (Option.some.inj hstored).symm

/-- **What was read stays known**: a new state has a new version. -/
theorem IsKnown.later (h : IsKnown s kind key r) (hlater : Later s s') :
    IsKnown s' kind key r := by
  refine ⟨h.keyed, h.numbered.mono hlater.versions, fun stored hstored hversion => ?_⟩
  rcases hlater.objects hstored with hold | ⟨n, hlt, -, hn⟩
  · exact h.same stored hold hversion
  · obtain ⟨m, -, hle, hm⟩ := h.numbered.version
    rw [hn, hm] at hversion
    have := Decimal.text_injective (Option.some.inj hversion)
    omega

end MemoryStore

end ClusterFleet
