import ClusterFleet.Proofs.Store.Later

/-!
# Store — what attempts cost

An attempt to bring a status up to date reads the object and, if there is
something to change, writes it. The store after some attempts that lost is
known in full (`lose`): their requests are noted, each has used up one
planted fault, and nothing else is different. So is the store after an
attempt that got through (`commit`). What was read and written is said
apart from the requests: nothing at all (`Unwritten`), or one object
(`WrittenOnce`), as it is told (`WrittenIf`).
-/

namespace ClusterFleet

namespace MemoryStore

/-- The requests of some attempts: each reads the object and writes its
status. -/
def attemptRequests (kind : Kind) (key : Key) (n : ℕ) : List Action :=
  (List.replicate n [⟨.get, kind, some key⟩, ⟨.updateStatus, kind, some key⟩]).flatten

/-- The store after some attempts whose writes met planted faults. -/
def lose (kind : Kind) (key : Key) (n : ℕ) (s : MemoryStore) : MemoryStore :=
  { s with
    actions := s.actions ++ attemptRequests kind key n
    writeFaults := s.writeFaults.drop n }

/-- The store after an attempt whose write was accepted. -/
def commit (kind : Kind) (key : Key) (r : Resource) (s : MemoryStore) : MemoryStore :=
  { s.hold kind r with
    actions := s.actions ++ attemptRequests kind key 1
    statusWrites := s.statusWrites + 1 }

/-- The number of planted conflicts that come before any other fault. -/
def conflictsAhead (s : MemoryStore) : ℕ := (s.writeFaults.takeWhile StoreError.isConflict).length

section Attempts

variable {s : MemoryStore} {kind : Kind} {key : Key} {fault : StoreError} {later : List StoreError}

theorem attemptRequests_add (kind : Kind) (key : Key) (m n : ℕ) :
    attemptRequests kind key (m + n) =
      attemptRequests kind key m ++ attemptRequests kind key n := by
  unfold attemptRequests
  rw [List.replicate_add, List.flatten_append]

@[simp] theorem lose_zero (kind : Kind) (key : Key) (s : MemoryStore) : s.lose kind key 0 = s := by
  simp [lose, attemptRequests]

/-- Attempts lost one after another. -/
theorem lose_lose (kind : Kind) (key : Key) (m n : ℕ) (s : MemoryStore) :
    (s.lose kind key m).lose kind key n = s.lose kind key (m + n) := by
  simp [lose, attemptRequests_add, List.drop_drop, List.append_assoc]

/-- What a read and a write that meets a fault leave. -/
theorem lose_one (h : s.writeFaults = fault :: later) :
    { (s.observe .get kind (some key)).observe .updateStatus kind (some key) with
      writeFaults := later } = s.lose kind key 1 := by
  simp [lose, attemptRequests, observe, h]

/-- The requests of an attempt that got through after some that lost. -/
theorem actions_commit_lose (kind : Kind) (key : Key) (n : ℕ) (r : Resource) (s : MemoryStore) :
    ((s.lose kind key n).commit kind key r).actions =
      s.actions ++ attemptRequests kind key (n + 1) := by
  rw [attemptRequests_add, ← List.append_assoc]
  rfl

/-- A write that was accepted holds what was written. -/
theorem object?_commit (kind kind' : Kind) (key key' : Key) (r : Resource) (s : MemoryStore) :
    (s.commit kind key r).object? kind' key' = (s.hold kind r).object? kind' key' := by
  rw [object?_eq, object?_eq]
  rfl

theorem conflictsAhead_of_nil (h : s.writeFaults = []) : s.conflictsAhead = 0 := by
  simp [conflictsAhead, h]

/-- A fault that is no conflict ends the conflicts. -/
theorem conflictsAhead_of_final (h : s.writeFaults = fault :: later)
    (final : fault.isConflict = false) : s.conflictsAhead = 0 := by
  simp [conflictsAhead, h, final]

/-- A conflict is one more than those after it. -/
theorem conflictsAhead_of_conflict (h : s.writeFaults = fault :: later)
    (conflict : fault.isConflict = true) (kind : Kind) (key : Key) :
    s.conflictsAhead = (s.lose kind key 1).conflictsAhead + 1 := by
  simp [conflictsAhead, lose, h, conflict]

end Attempts

/-! ## Faults as they are reported -/

theorem isConflict_faultFor (kind : Kind) (key : Key) (fault : StoreError) :
    (faultFor kind key fault).isConflict = fault.isConflict := by
  cases fault <;> rfl

/-- Only a conflict is reported under another name. -/
theorem faultFor_of_final {fault : StoreError} (final : fault.isConflict = false) (kind : Kind)
    (key : Key) : faultFor kind key fault = fault := by
  cases fault with
  | conflict => cases final
  | _ => rfl

/-! ## What was written -/

/-- **Nothing was written**: every stored object is as it was, its version
included. -/
structure Unwritten (s s' : MemoryStore) : Prop where
  consulted : Consulted s s'
  statusWrites : s'.statusWrites = s.statusWrites

/-- **One object was written**, and nothing else: other conditions at a new
version, by one write. -/
structure WrittenOnce (kind : Kind) (key : Key) (s s' : MemoryStore) : Prop where
  entry : ∃ stored conditions, s.object? kind key = some stored ∧ conditions ≠ stored.conditions ∧
    s'.object? kind key =
      some (Resource.atVersion (s.versions + 1) { stored with conditions := conditions })
  others : ∀ {kind' : Kind} {key' : Key}, (kind, key) ≠ (kind', key') →
    s'.object? kind' key' = s.object? kind' key'
  versions : s'.versions = s.versions + 1
  statusWrites : s'.statusWrites = s.statusWrites + 1

section Written

variable {s s' s'' : MemoryStore} {kind : Kind} {key : Key} {stored : Resource}
variable {conditions : List Condition}

theorem Unwritten.refl (s : MemoryStore) : Unwritten s s := ⟨.refl s, rfl⟩

theorem Unwritten.trans (h : Unwritten s s') (h' : Unwritten s' s'') : Unwritten s s'' :=
  ⟨h.consulted.trans h'.consulted, h'.statusWrites.trans h.statusWrites⟩

theorem Unwritten.observe (verb : Verb) (kind : Kind) (key : Option Key) (s : MemoryStore) :
    Unwritten s (s.observe verb kind key) := ⟨.observe verb kind key s, rfl⟩

/-- Attempts that lost wrote nothing. -/
theorem Unwritten.lose (kind : Kind) (key : Key) (n : ℕ) (s : MemoryStore) :
    Unwritten s (s.lose kind key n) :=
  ⟨⟨rfl, rfl, List.suffix_refl _, List.drop_suffix n _⟩, rfl⟩

/-- An attempt that got through wrote the object that it read. -/
theorem WrittenOnce.commit (hs : s.Sound) (found : s.object? kind key = some stored)
    (changed : conditions ≠ stored.conditions) :
    WrittenOnce kind key s (s.commit kind key { stored with conditions := conditions }) := by
  have hkey : stored.key = key := (hs.found found).1
  let written : Resource := { stored with conditions := conditions }
  refine ⟨⟨stored, conditions, found, changed, ?_⟩, fun hne => ?_, rfl, rfl⟩
  · rw [object?_commit, ← hkey]
    exact object?_hold_self kind written s
  · rw [object?_commit]
    exact object?_hold_of_ne (hkey ▸ hne)

/-- Where nothing was written before, it makes no difference. -/
theorem WrittenOnce.before (h : WrittenOnce kind key s' s'') (same : Unwritten s s') :
    WrittenOnce kind key s s'' := by
  obtain ⟨stored, conditions, found, changed, after⟩ := h.entry
  have hobject := same.consulted.object?
  have hversions := same.consulted.versions
  refine ⟨⟨stored, conditions, ?_, changed, ?_⟩, fun hne => ?_, ?_, ?_⟩
  · rw [← hobject, found]
  · rw [after, hversions]
  · rw [h.others hne, hobject]
  · rw [h.versions, hversions]
  · rw [h.statusWrites, same.statusWrites]

/-- **What was written is as told**: one object, or nothing. -/
def WrittenIf (kind : Kind) (key : Key) (s s' : MemoryStore) : Bool → Prop
  | true => WrittenOnce kind key s s'
  | false => Unwritten s s'

theorem WrittenIf.before {told : Bool} (h : WrittenIf kind key s' s'' told)
    (same : Unwritten s s') : WrittenIf kind key s s'' told := by
  cases told with
  | true => exact WrittenOnce.before h same
  | false => exact same.trans h

end Written

end MemoryStore

end ClusterFleet
