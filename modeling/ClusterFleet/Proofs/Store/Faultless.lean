import ClusterFleet.Proofs.Store.Later

/-!
# Store — requests where no fault is planted

A store without planted faults (`Faultless`) answers every request with
what it holds: a read finds the object, and a status write of the stored
version succeeds. Reads leave it as it was but for the record of requests
(`Inspected`), so it can be told from a store whose status was written,
if only with the same conditions.
-/

namespace ClusterFleet

namespace MemoryStore

/-- No fault is planted. -/
structure Faultless (s : MemoryStore) : Prop where
  reads : s.readFaults = []
  writes : s.writeFaults = []

/-- The status writes that were asked for, whether or not they succeeded. -/
def writesAsked (s : MemoryStore) : List Action := s.actions.filter fun a => a.verb = .updateStatus

/-- A store after requests none of which was a status write. -/
structure Inspected (s s' : MemoryStore) : Prop where
  consulted : Consulted s s'
  statusWrites : s'.statusWrites = s.statusWrites
  writesAsked : s'.writesAsked = s.writesAsked

variable {s s' s'' : MemoryStore} {kind kind' : Kind} {key : Key} {object r stored : Resource}

namespace Inspected

theorem refl (s : MemoryStore) : Inspected s s := ⟨.refl s, rfl, rfl⟩

theorem trans (h : Inspected s s') (h' : Inspected s' s'') : Inspected s s'' :=
  ⟨h.consulted.trans h'.consulted, h'.statusWrites.trans h.statusWrites,
    h'.writesAsked.trans h.writesAsked⟩

/-- A request that is no status write is noted. -/
theorem observe {verb : Verb} (hverb : verb ≠ .updateStatus) (kind : Kind) (key : Option Key)
    (s : MemoryStore) : Inspected s (s.observe verb kind key) := by
  refine ⟨.observe verb kind key s, rfl, ?_⟩
  have hnone : [(⟨verb, kind, key⟩ : Action)].filter (fun a => a.verb = .updateStatus) = [] := by
    simp [hverb]
  change (s.actions ++ [_]).filter _ = _
  rw [List.filter_append, hnone, List.append_nil]
  rfl

end Inspected

theorem Consulted.faultless (h : Consulted s s') (hf : s.Faultless) : s'.Faultless := by
  refine ⟨List.suffix_nil.mp ?_, List.suffix_nil.mp ?_⟩
  · rw [← hf.reads]
    exact h.readFaults
  · rw [← hf.writes]
    exact h.writeFaults

/-- **A read** finds what is stored. -/
theorem Faultless.get (hf : s.Faultless) (hs : s.Sound) (kind : Kind) (key : Key) :
    (s.get kind key).1 = .ok (s.object? kind key) ∧ Inspected s (s.get kind key).2 := by
  rw [hs.get_eq hf.reads]
  exact ⟨rfl, .observe (by decide) _ _ s⟩

/-- **A read of a kind** finds its objects, in the order of their keys. -/
theorem Faultless.list (hf : s.Faultless) (hs : s.Sound) (kind : Kind) :
    (s.list kind).1 = .ok (Key.sortBy Resource.key (s.objects kind)) ∧
      Inspected s (s.list kind).2 := by
  rw [hs.list_of_no_fault hf.reads]
  exact ⟨rfl, .observe (by decide) _ _ s⟩

/-- **A status write** of the stored version succeeds. -/
theorem Faultless.updateStatus (hf : s.Faultless) (hs : s.Sound)
    (h : s.object? kind object.key = some stored)
    (hversion : object.metadata.version = stored.metadata.version) :
    (s.updateStatus kind object).1 = .ok ((merged stored object).atVersion (s.versions + 1)) ∧
      Consulted (s.hold kind (merged stored object)) (s.updateStatus kind object).2 := by
  rcases hs.updateStatus_cases kind object with ⟨e, -, hfailure, -⟩ | ⟨other, hother, -, hok, hheld⟩
  · exfalso
    cases hfailure with
    | planted hfault =>
      rw [hf.writes] at hfault
      cases hfault
    | gone hgone => cases h.symm.trans hgone
    | stale hstored hne =>
      obtain rfl := Option.some.inj (h.symm.trans hstored)
      exact hne hversion
  · obtain rfl := Option.some.inj (h.symm.trans hother)
    exact ⟨hok, hheld⟩

/-- A document put in place is none of another kind. -/
theorem filter_insertDocument_of_ne (hne : kind ≠ kind') (key : Key) (document : Json)
    (es : List Entry) :
    (insertDocument kind key document es).filter (fun e => e.kind = kind') =
      es.filter fun e => e.kind = kind' := by
  induction es with
  | nil => simp [insertDocument, hne]
  | cons e rest ih =>
    rw [insertDocument]
    split
    · rename_i hat
      have hkind : e.kind ≠ kind' := by
        simp only [Bool.and_eq_true, decide_eq_true_eq] at hat
        rw [hat.1]
        exact hne
      simp [hne, hkind]
    · rw [List.filter_cons, List.filter_cons, ih]

/-- Holding an object leaves the objects of the other kinds alone, and their
order. -/
theorem objects_hold_of_ne (hne : kind ≠ kind') (r : Resource) (s : MemoryStore) :
    (s.hold kind r).objects kind' = s.objects kind' := by
  have hentries := filter_insertDocument_of_ne hne r.key (r.atVersion (s.versions + 1)).write s.entries
  unfold objects
  exact congrArg (List.filterMap _) hentries

end MemoryStore

end ClusterFleet
