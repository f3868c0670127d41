import ClusterFleet.Proofs.Store.Contents
import Mathlib.Data.List.Perm.Basic

/-!
# Store — requests

What each request and each change of the authority does to the objects of
a sound store. A request that writes nothing leaves the documents alone
and at most uses up a planted fault (`Consulted`); a status write that
succeeds holds the stored object with the caller's conditions, and nothing
else of it changes but its version (`Sound.updateStatus_cases`).
-/

namespace ClusterFleet

theorem perm_sortBy {α : Type} (key : α → Key) (items : List α) :
    (Key.sortBy key items).Perm items := List.mergeSort_perm _ _

namespace MemoryStore

variable {s s' s'' : MemoryStore} {kind kind' : Kind} {key key' : Key} {r : Resource}

/-! ## Requests that write nothing -/

/-- A store after requests that wrote nothing: the documents and the
versions are the same, and planted faults may have been used up. -/
structure Consulted (s s' : MemoryStore) : Prop where
  entries : s'.entries = s.entries
  versions : s'.versions = s.versions
  readFaults : s'.readFaults <:+ s.readFaults
  writeFaults : s'.writeFaults <:+ s.writeFaults

namespace Consulted

theorem refl (s : MemoryStore) : Consulted s s :=
  ⟨rfl, rfl, List.suffix_refl _, List.suffix_refl _⟩

theorem trans (h : Consulted s s') (h' : Consulted s' s'') : Consulted s s'' :=
  ⟨h'.entries.trans h.entries, h'.versions.trans h.versions, h'.readFaults.trans h.readFaults,
    h'.writeFaults.trans h.writeFaults⟩

theorem object? (h : Consulted s s') (kind : Kind) (key : Key) :
    s'.object? kind key = s.object? kind key := by
  rw [object?_eq, object?_eq, h.entries]

theorem objects (h : Consulted s s') (kind : Kind) : s'.objects kind = s.objects kind := by
  rw [MemoryStore.objects, MemoryStore.objects, h.entries]

theorem sound (h : Consulted s s') (hs : s.Sound) : s'.Sound := by
  constructor
  · rw [h.entries, h.versions]
    exact hs.written
  · rw [h.entries]
    exact hs.nodup

/-- A request is noted. -/
theorem observe (verb : Verb) (kind : Kind) (key : Option Key) (s : MemoryStore) :
    Consulted s (s.observe verb kind key) :=
  ⟨rfl, rfl, List.suffix_refl _, List.suffix_refl _⟩

/-- A read fault is used up. -/
theorem readFault {fault : StoreError} {later : List StoreError}
    (h : s.readFaults = fault :: later) (verb : Verb) (kind : Kind) (key : Option Key) :
    Consulted s { s.observe verb kind key with readFaults := later } :=
  ⟨rfl, rfl, h ▸ List.suffix_cons fault later, List.suffix_refl _⟩

/-- A write fault is used up. -/
theorem writeFault {fault : StoreError} {later : List StoreError}
    (h : s.writeFaults = fault :: later) (verb : Verb) (kind : Kind) (key : Option Key) :
    Consulted s { s.observe verb kind key with writeFaults := later } :=
  ⟨rfl, rfl, List.suffix_refl _, h ▸ List.suffix_cons fault later⟩

end Consulted

section Observed

variable (verb : Verb) (k : Option Key)

theorem document?_observe :
    (s.observe verb kind' k).document? kind key = s.document? kind key := rfl

theorem readFaults_observe : (s.observe verb kind k).readFaults = s.readFaults := rfl

theorem writeFaults_observe : (s.observe verb kind k).writeFaults = s.writeFaults := rfl

theorem versions_observe : (s.observe verb kind k).versions = s.versions := rfl

end Observed

theorem get_of_fault {fault : StoreError} {later : List StoreError}
    (h : s.readFaults = fault :: later) (kind : Kind) (key : Key) :
    s.get kind key =
      (.error fault, { s.observe .get kind (some key) with readFaults := later }) := by
  rw [get]
  simp only [MemoryStore.observe, h]

theorem get_of_gone (hf : s.readFaults = []) (h : s.document? kind key = none) :
    s.get kind key = (.ok none, s.observe .get kind (some key)) := by
  rw [get]
  simp only [readFaults_observe, document?_observe, hf, h]

theorem get_of_stored (hf : s.readFaults = []) (h : s.document? kind key = some r.write) :
    s.get kind key = (.ok (some r), s.observe .get kind (some key)) := by
  rw [get]
  simp only [readFaults_observe, document?_observe, hf, h, decode_write]
  rfl

theorem list_of_fault {fault : StoreError} {later : List StoreError}
    (h : s.readFaults = fault :: later) (kind : Kind) :
    s.list kind = (.error fault, { s.observe .list kind none with readFaults := later }) := by
  rw [list]
  simp only [MemoryStore.observe, h]

/-- **A read that meets no fault** finds what is stored, and is noted. -/
theorem Sound.get_eq (hs : s.Sound) (hf : s.readFaults = []) (kind : Kind) (key : Key) :
    s.get kind key = (.ok (s.object? kind key), s.observe .get kind (some key)) := by
  have hdocument := hs.document? kind key
  cases hobject : s.object? kind key with
  | none =>
    rw [hobject, Option.map_none] at hdocument
    exact get_of_gone hf hdocument
  | some r =>
    rw [hobject, Option.map_some] at hdocument
    exact get_of_stored hf hdocument

/-- **A read** ends in a planted fault, or finds the object. -/
theorem Sound.get_cases (hs : s.Sound) (kind : Kind) (key : Key) :
    Consulted s (s.get kind key).2 ∧
      ((∃ fault ∈ s.readFaults, (s.get kind key).1 = .error fault) ∨
        (s.get kind key).1 = .ok (s.object? kind key)) := by
  cases hfaults : s.readFaults with
  | cons fault later =>
    rw [get_of_fault hfaults]
    exact ⟨.readFault hfaults _ _ _, .inl ⟨fault, List.mem_cons_self, rfl⟩⟩
  | nil =>
    rw [hs.get_eq hfaults]
    exact ⟨.observe _ _ _ s, .inr rfl⟩

/-- The documents of a kind hold the objects of the kind. -/
theorem Sound.decode_all (hs : s.Sound) (kind : Kind) :
    ((s.entries.filter fun e => e.kind = kind).map (·.document)).mapM (decode kind) =
      .ok (s.objects kind) := by
  have hwritten := hs.written
  unfold objects
  generalize s.entries = es at hwritten
  induction es with
  | nil => rfl
  | cons e rest ih =>
    have hlater := ih fun d hd => hwritten d (List.mem_cons_of_mem _ hd)
    by_cases hkind : e.kind = kind
    · obtain ⟨r, hr, -⟩ := hwritten e List.mem_cons_self
      rw [List.filter_cons, if_pos (decide_eq_true hkind), List.filterMap_cons, List.map_cons,
        List.mapM_cons, congrArg Entry.document hr, decode_write, hlater]
      rfl
    · rw [List.filter_cons, if_neg fun h => hkind (of_decide_eq_true h)]
      exact hlater

theorem Sound.list_of_no_fault (hs : s.Sound) (h : s.readFaults = []) (kind : Kind) :
    s.list kind =
      (.ok (Key.sortBy Resource.key (s.objects kind)), s.observe .list kind none) := by
  have hlist : s.list kind = ((((s.entries.filter fun e => e.kind = kind).map
      (·.document)).mapM (decode kind)).map (Key.sortBy Resource.key),
      s.observe .list kind none) := by
    rw [list]
    simp only [MemoryStore.observe, h]
  rw [hlist, hs.decode_all]
  rfl

/-- **A read of a kind** ends in a planted fault, or finds the objects of the
kind in the order of their keys. -/
theorem Sound.list_cases (hs : s.Sound) (kind : Kind) :
    Consulted s (s.list kind).2 ∧
      ((∃ fault ∈ s.readFaults, (s.list kind).1 = .error fault) ∨
        (s.list kind).1 = .ok (Key.sortBy Resource.key (s.objects kind))) := by
  cases hfaults : s.readFaults with
  | cons fault later =>
    rw [list_of_fault hfaults]
    exact ⟨.readFault hfaults _ _ _, .inl ⟨fault, List.mem_cons_self, rfl⟩⟩
  | nil =>
    rw [hs.list_of_no_fault hfaults]
    exact ⟨.observe _ _ _ s, .inr rfl⟩

/-! ## Status writes -/

/-- Why a status write of an object fails. -/
inductive WriteFailure (s : MemoryStore) (kind : Kind) (object : Resource) : StoreError → Prop
  | planted {fault : StoreError} (h : fault ∈ s.writeFaults) :
      WriteFailure s kind object (faultFor kind object.key fault)
  | gone (h : s.object? kind object.key = none) :
      WriteFailure s kind object (.notFound kind object.key)
  /-- The object has another version by now. -/
  | stale {stored : Resource} (h : s.object? kind object.key = some stored)
      (hne : object.metadata.version ≠ stored.metadata.version) :
      WriteFailure s kind object (.conflict kind object.key
        (staleMessage object.metadata.version stored.metadata.version))

/-- The stored object with the caller's conditions. -/
def merged (stored object : Resource) : Resource := { stored with conditions := object.conditions }

variable {object stored : Resource}

theorem updateStatus_of_fault {fault : StoreError} {later : List StoreError}
    (h : s.writeFaults = fault :: later) (kind : Kind) (object : Resource) :
    s.updateStatus kind object = (.error (faultFor kind object.key fault),
      { s.observe .updateStatus kind (some object.key) with writeFaults := later }) := by
  rw [updateStatus]
  simp only [writeFaults_observe, h]

theorem updateStatus_of_gone (hf : s.writeFaults = [])
    (h : s.document? kind object.key = none) :
    s.updateStatus kind object = (.error (.notFound kind object.key),
      s.observe .updateStatus kind (some object.key)) := by
  rw [updateStatus]
  simp only [writeFaults_observe, document?_observe, hf, h]

theorem updateStatus_of_stale (hf : s.writeFaults = [])
    (h : s.document? kind object.key = some stored.write)
    (hne : object.metadata.version ≠ stored.metadata.version) :
    s.updateStatus kind object = (.error (.conflict kind object.key
        (staleMessage object.metadata.version stored.metadata.version)),
      s.observe .updateStatus kind (some object.key)) := by
  rw [updateStatus]
  simp only [writeFaults_observe, document?_observe, hf, h, documentVersion?_write]
  rw [if_pos hne]

theorem updateStatus_of_current (hf : s.writeFaults = [])
    (h : s.document? kind object.key = some stored.write)
    (hsome : stored.metadata.version.isSome = true)
    (heq : object.metadata.version = stored.metadata.version) :
    s.updateStatus kind object = (.ok ((merged stored object).atVersion (s.versions + 1)),
      { s.observe .updateStatus kind (some object.key) with
        versions := s.versions + 1
        entries := insertDocument kind object.key
          ((merged stored object).atVersion (s.versions + 1)).write s.entries
        statusWrites := s.statusWrites + 1 }) := by
  have hnext : setVersion (s.versions + 1)
      (setStatus (Resource.writeStatus object.conditions) stored.write) =
        ((merged stored object).atVersion (s.versions + 1)).write := by
    have hmerged : (merged stored object).metadata.version.isSome = true := hsome
    rw [setStatus_write]
    exact setVersion_write hmerged _
  rw [updateStatus]
  simp only [writeFaults_observe, document?_observe, versions_observe, hf, h,
    documentVersion?_write, hnext, decode_write]
  rw [if_neg (not_not_intro heq)]
  rfl

/-- **A status write** fails and writes nothing, or the stored object has the
version that the caller read and is held with the caller's conditions. -/
theorem Sound.updateStatus_cases (hs : s.Sound) (kind : Kind) (object : Resource) :
    (∃ e, (s.updateStatus kind object).1 = .error e ∧ WriteFailure s kind object e ∧
      Consulted s (s.updateStatus kind object).2) ∨
    (∃ stored, s.object? kind object.key = some stored ∧
      object.metadata.version = stored.metadata.version ∧
      (s.updateStatus kind object).1 = .ok ((merged stored object).atVersion (s.versions + 1)) ∧
      Consulted (s.hold kind (merged stored object)) (s.updateStatus kind object).2) := by
  have hobserve := Consulted.observe .updateStatus kind (some object.key) s
  cases hfaults : s.writeFaults with
  | cons fault later =>
    rw [updateStatus_of_fault hfaults]
    exact .inl ⟨_, rfl, .planted (hfaults ▸ List.mem_cons_self), .writeFault hfaults _ _ _⟩
  | nil =>
    have hdocument := hs.document? kind object.key
    cases hobject : s.object? kind object.key with
    | none =>
      rw [hobject] at hdocument
      rw [updateStatus_of_gone hfaults hdocument]
      exact .inl ⟨_, rfl, .gone hobject, hobserve⟩
    | some stored =>
      obtain ⟨hkey, hnumbered, hdocument⟩ := hs.found hobject
      by_cases hversion : object.metadata.version = stored.metadata.version
      · rw [updateStatus_of_current hfaults hdocument hnumbered.isSome hversion]
        refine .inr ⟨stored, rfl, hversion, rfl, ?_, rfl, List.suffix_refl _, List.suffix_refl _⟩
        rw [← hkey]
        rfl
      · rw [updateStatus_of_stale hfaults hdocument hversion]
        exact .inl ⟨_, rfl, .stale hobject hversion, hobserve⟩

/-! ## The authority's own changes -/

/-- The object with an identity: its own, or else the next one. -/
def identified (r : Resource) (s : MemoryStore) : Resource :=
  { r with metadata := { r.metadata with
      uid := if r.metadata.uid.isNone then some (identity (s.identities + 1)) else r.metadata.uid } }

theorem identified_uid (r : Resource) (s : MemoryStore) :
    (identified r s).metadata.uid.isSome = true := by
  unfold identified
  cases h : r.metadata.uid with
  | none => rfl
  | some uid => rfl

/-- **Putting an object** holds it, with an identity. -/
theorem put_eq (kind : Kind) (r : Resource) (s : MemoryStore) :
    (s.put kind r).1 = (identified r s).atVersion (s.versions + 1) ∧
      Consulted (s.hold kind (identified r s)) (s.put kind r).2 := by
  unfold put identified
  cases h : r.metadata.uid with
  | none => exact ⟨rfl, rfl, rfl, List.suffix_refl _, List.suffix_refl _⟩
  | some uid => exact ⟨rfl, rfl, rfl, List.suffix_refl _, List.suffix_refl _⟩

/-- What an object keeps when it is put: everything but version and
identity. -/
theorem put_kept (kind : Kind) (r : Resource) (s : MemoryStore) :
    (s.put kind r).1.key = r.key ∧ (s.put kind r).1.conditions = r.conditions ∧
      (s.put kind r).1.clusterSet? = r.clusterSet? ∧
      (s.put kind r).1.isDeleting = r.isDeleting := by
  rw [(put_eq kind r s).1]
  exact ⟨rfl, rfl, rfl, rfl⟩

theorem Sound.put (hs : s.Sound) (kind : Kind) (r : Resource) : (s.put kind r).2.Sound :=
  (put_eq kind r s).2.sound (hs.hold kind (identified_uid r s))

theorem object?_put (kind kind' : Kind) (r : Resource) (key' : Key) (s : MemoryStore) :
    (s.put kind r).2.object? kind' key' =
      if (kind, r.key) = (kind', key') then some (s.put kind r).1 else s.object? kind' key' := by
  rw [(put_eq kind r s).2.object?, object?_hold, (put_eq kind r s).1]
  rfl

/-- **Changing an object** puts what the change makes of it, if it is there. -/
theorem Sound.modify_eq (hs : s.Sound) (kind : Kind) (key : Key) (change : Resource → Resource) :
    s.modify kind key change = match s.object? kind key with
      | none => (.error (.notFound kind key), s)
      | some r => (.ok (s.put kind (change r)).1, (s.put kind (change r)).2) := by
  have hdocument := hs.document? kind key
  rw [modify, hdocument]
  cases s.object? kind key with
  | none => rfl
  | some r =>
    simp only [Option.map_some, decode_write]

theorem find?_filter_stands (kind kind' : Kind) (key key' : Key) (es : List Entry) :
    (es.filter fun e => !stands kind key e).find? (stands kind' key') =
      if (kind, key) = (kind', key') then none else es.find? (stands kind' key') := by
  induction es with
  | nil => rw [List.filter_nil, List.find?_nil, ite_self]
  | cons e rest ih =>
    by_cases hat : stands kind key e = true
    · rw [List.filter_cons, if_neg (by rw [hat]; decide), ih]
      split
      · rfl
      · rename_i hne
        rw [List.find?_cons_of_neg]
        intro hat'
        exact hne ((stands_iff.mp hat).symm.trans (stands_iff.mp hat'))
    · rw [List.filter_cons, if_pos (by rw [eq_false_of_ne_true hat]; rfl)]
      by_cases hat' : stands kind' key' e = true
      · have hne : (kind, key) ≠ (kind', key') := fun heq =>
          hat (stands_iff.mpr ((stands_iff.mp hat').trans heq.symm))
        rw [List.find?_cons_of_pos hat', List.find?_cons_of_pos hat', if_neg hne]
      · rw [List.find?_cons_of_neg hat', List.find?_cons_of_neg hat', ih]

/-- **Removing** empties one place. -/
theorem object?_remove (kind kind' : Kind) (key key' : Key) (s : MemoryStore) :
    (s.remove kind key).2.object? kind' key' =
      if (kind, key) = (kind', key') then none else s.object? kind' key' := by
  have hentries : (s.remove kind key).2.entries = s.entries.filter fun e => !stands kind key e := rfl
  rw [object?_eq, object?_eq, hentries, find?_filter_stands]
  split
  · rfl
  · rfl

theorem Sound.remove (hs : s.Sound) (kind : Kind) (key : Key) : (s.remove kind key).2.Sound := by
  refine ⟨fun e he => hs.written e (List.mem_filter.mp he).1, ?_⟩
  exact hs.nodup.sublist (List.filter_sublist.map _)

end MemoryStore

end ClusterFleet
