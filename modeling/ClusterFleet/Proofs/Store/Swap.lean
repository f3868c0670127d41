import ClusterFleet.Proofs.Store.Latest

/-!
# Store — a status write is a swap

A status write is decided in a fixed order: a planted fault, then a
missing object, then a version that is not the stored one, and only then
it succeeds (`IsSwap`). A write that succeeds takes nothing but the
conditions from its caller (`Swapped`), and one that fails changes no
document.
-/

namespace ClusterFleet

namespace MemoryStore

/-- What a status write that succeeds makes of a stored object and of its
store. -/
structure Swapped (s : MemoryStore) (kind : Kind) (object stored written : Resource)
    (s' : MemoryStore) : Prop where
  /-- The conditions are the caller's. -/
  conditions : written.conditions = object.conditions
  /-- Everything else is as it was stored, but for the version. -/
  metadata : written.metadata =
    { stored.metadata with version := some (Decimal.text (s.versions + 1)) }
  /-- The version is above those of all documents. -/
  fresh : ∀ e ∈ s.entries, ∃ n, documentVersion? e.document = some (Decimal.text n) ∧
    n < s.versions + 1
  /-- The object stands in its place. -/
  document : s'.document? kind object.key = some written.write
  /-- No other place changes. -/
  others : ∀ (kind' : Kind) (key' : Key), (kind, object.key) ≠ (kind', key') →
    s'.document? kind' key' = s.document? kind' key'
  /-- A read finds the object, unless a fault is planted for it. -/
  readBack : (s'.get kind object.key).1 = match s.readFaults with
    | [] => .ok (some written)
    | fault :: _ => .error fault
  /-- No fault is used up, and one version is given out. -/
  counted : s'.versions = s.versions + 1 ∧ s'.readFaults = s.readFaults ∧
    s'.writeFaults = s.writeFaults

/-- The result of a status write and the store after it, as a swap decides
them: the first case that applies is what happens. A write that fails leaves
the store as it is, but for the note of the request and the fault that was
used up. -/
structure IsSwap (s : MemoryStore) (kind : Kind) (object : Resource)
    (result : Except StoreError Resource) (s' : MemoryStore) : Prop where
  /-- The first planted fault is used up and reported: a conflict as one of
  this object, and any other as it is. -/
  faulted : ∀ fault later, s.writeFaults = fault :: later →
    (∀ kind' key' message, fault = .conflict kind' key' message →
      result = .error (.conflict kind object.key message)) ∧
    (fault.isConflict = false → result = .error fault) ∧
    s' = { s.observe .updateStatus kind (some object.key) with writeFaults := later }
  /-- There is no such object. -/
  gone : s.writeFaults = [] → s.document? kind object.key = none →
    result = .error (.notFound kind object.key) ∧
      s' = s.observe .updateStatus kind (some object.key)
  /-- The object has another version than the caller's. -/
  stale : s.writeFaults = [] → ∀ document, s.document? kind object.key = some document →
    object.metadata.version ≠ documentVersion? document →
    result = .error (.conflict kind object.key
        (staleMessage object.metadata.version (documentVersion? document))) ∧
      s' = s.observe .updateStatus kind (some object.key)
  /-- The object has the caller's version. -/
  current : s.writeFaults = [] → ∀ document, s.document? kind object.key = some document →
    object.metadata.version = documentVersion? document →
    ∃ stored written, document = stored.write ∧ stored.key = object.key ∧
      result = .ok written ∧ Swapped s kind object stored written s'
  /-- A stored object has a version, so a caller without one is not current. -/
  versioned : ∀ document, s.document? kind object.key = some document →
    (documentVersion? document).isSome = true

section Swap

variable {s : MemoryStore} {kind kind' : Kind} {key key' : Key} {object stored : Resource}
variable {document : Json}

/-- A document of a sound store is one of the object found in its place. -/
theorem Sound.of_document? (hs : s.Sound) (h : s.document? kind key = some document) :
    ∃ r, s.object? kind key = some r ∧ document = r.write := by
  rw [hs.document?] at h
  obtain ⟨r, hr, hwrite⟩ := Option.map_eq_some_iff.mp h
  exact ⟨r, hr, hwrite.symm⟩

/-- Where a document was put in place, it is found, and the documents of other
places are found as before. -/
theorem document?_of_inserted {s' : MemoryStore}
    (h : s'.entries = insertDocument kind key document s.entries) (kind' : Kind) (key' : Key) :
    s'.document? kind' key' =
      if (kind, key) = (kind', key') then some document else s.document? kind' key' := by
  change (s'.entries.find? (stands kind' key')).map _ =
    if (kind, key) = (kind', key') then some document
    else (s.entries.find? (stands kind' key')).map _
  rw [h, find?_insertDocument]
  split
  · rfl
  · rfl

/-- What a read finds of a document in its place, or the fault planted for it. -/
theorem get_of_document? {r : Resource} (h : s.document? kind key = some r.write) :
    (s.get kind key).1 = match s.readFaults with
      | [] => .ok (some r)
      | fault :: _ => .error fault := by
  cases hread : s.readFaults with
  | nil => rw [get_of_stored hread h]
  | cons fault later => rw [get_of_fault hread]

/-- **A status write of a current object** swaps its conditions in. -/
theorem Sound.swapped (hs : s.Sound) (hf : s.writeFaults = [])
    (h : s.object? kind object.key = some stored)
    (heq : object.metadata.version = stored.metadata.version) :
    ∃ written, (s.updateStatus kind object).1 = .ok written ∧
      Swapped s kind object stored written (s.updateStatus kind object).2 := by
  obtain ⟨-, hnumbered, hdocument⟩ := hs.found h
  let written : Resource := (merged stored object).atVersion (s.versions + 1)
  have hupdate := updateStatus_of_current hf hdocument hnumbered.isSome heq
  have hplaces : ∀ kind' key', (s.updateStatus kind object).2.document? kind' key' =
      if (kind, object.key) = (kind', key') then some written.write
      else s.document? kind' key' := by
    intro kind' key'
    rw [hupdate]
    exact document?_of_inserted rfl kind' key'
  have hstands := (hplaces kind object.key).trans (if_pos rfl)
  have hreads : (s.updateStatus kind object).2.readFaults = s.readFaults := by rw [hupdate]; rfl
  have hwrites : (s.updateStatus kind object).2.writeFaults = s.writeFaults := by rw [hupdate]; rfl
  refine ⟨written, by rw [hupdate], ?_⟩
  exact {
    conditions := rfl
    metadata := rfl
    fresh := hs.versions_lt
    document := hstands
    others := fun kind' key' hne => (hplaces kind' key').trans (if_neg hne)
    readBack := by rw [get_of_document? hstands, hreads]
    counted := ⟨by rw [hupdate], hreads, hwrites⟩ }

end Swap

/-- **A status write is a compare-and-swap of the status.** After any history
of operations on an empty store, and for every object that a caller passes:
a planted write fault is used up and reported, a conflict under the object's
own kind and key; else an object that is not there is not found; else a
version that is not the stored one, or none, is a conflict; else the write
succeeds. It takes the conditions of the caller's object and nothing else of
it: the rest of the object stays as stored, at a new version above those of
all documents, and the object returned is the one that a following read
finds. A write that succeeds changes no other document, and one that fails
changes none. -/
theorem status_write_is_a_swap (ops : List Operation) (kind : Kind) (object : Resource) :
    IsSwap (after ops) kind object ((after ops).updateStatus kind object).1
      ((after ops).updateStatus kind object).2 := by
  have hs : (after ops).Sound := sound_after ops
  constructor
  case faulted =>
    intro fault later hfaults
    rw [updateStatus_of_fault hfaults]
    refine ⟨fun kind' key' message hconflict => by rw [hconflict]; rfl, fun hother => ?_, rfl⟩
    cases fault with
    | conflict => cases hother
    | _ => rfl
  case gone =>
    intro hf hgone
    rw [updateStatus_of_gone hf hgone]
    exact ⟨rfl, rfl⟩
  case stale =>
    intro hf document hdocument hne
    obtain ⟨stored, -, rfl⟩ := hs.of_document? hdocument
    rw [documentVersion?_write] at hne ⊢
    rw [updateStatus_of_stale hf hdocument hne]
    exact ⟨rfl, rfl⟩
  case current =>
    intro hf document hdocument heq
    obtain ⟨stored, hstored, rfl⟩ := hs.of_document? hdocument
    rw [documentVersion?_write] at heq
    obtain ⟨written, hok, hswapped⟩ := hs.swapped hf hstored heq
    exact ⟨stored, written, rfl, (hs.found hstored).1, hok, hswapped⟩
  case versioned =>
    intro document hdocument
    obtain ⟨stored, hstored, rfl⟩ := hs.of_document? hdocument
    rw [documentVersion?_write]
    exact (hs.found hstored).2.1.isSome

/-- A caller's set with a label and a condition of its own. -/
def sneaky (version : Option String) : Resource :=
  ⟨⟨"a", none, some "stranger", version, [("sneaky", "yes")], none⟩,
    [⟨"Empty", .holds, "NoClusters", "", Instant.epoch⟩]⟩

/-- Of a set that was put and a conflict planted: the first write is the
conflict, under the set's own key, and the next one succeeds, without the
caller's label and at the second version; a write without a version is a
conflict too. -/
theorem status_write_is_a_swap_sneaky :
    ((after [.putSet "a", .plantConflicts 1]).updateStatus .set (sneaky (some "1"))).1 =
        .error (.conflict .set (.cluster "a") "injected conflict") ∧
      (∃ message, ((after [.putSet "a"]).updateStatus .set (sneaky none)).1 =
        .error (.conflict .set (.cluster "a") message)) ∧
      ∃ written, ((after [.putSet "a"]).updateStatus .set (sneaky (some "1"))).1 = .ok written ∧
        written.conditions = (sneaky none).conditions ∧
        written.metadata.version = some "2" ∧ written.metadata.labels = [] := by
  have hplanted := status_write_is_a_swap [.putSet "a", .plantConflicts 1] .set (sneaky (some "1"))
  have hbare := status_write_is_a_swap [.putSet "a"] .set (sneaky none)
  have hknown := status_write_is_a_swap [.putSet "a"] .set (sneaky (some "1"))
  have hthere : (after [.putSet "a"]).document? .set (.cluster "a") =
      some (empty.put .set ⟨⟨"a", none, none, none, [], none⟩, []⟩).1.write := rfl
  refine ⟨?_, ?_, ?_⟩
  · exact (hplanted.faulted _ [] rfl).1 _ _ _ rfl
  · have hversioned := hbare.versioned _ hthere
    refine ⟨_, (hbare.stale rfl _ hthere fun hnone => ?_).1⟩
    rw [← hnone] at hversioned
    cases hversioned
  · obtain ⟨stored, written, hwrite, -, hok, hswapped⟩ := hknown.current rfl _ hthere (by
      rw [documentVersion?_write]
      decide +kernel)
    have hstored := congrArg (decode .set) hwrite
    rw [decode_write, decode_write] at hstored
    obtain rfl := Except.ok.inj hstored
    refine ⟨written, hok, hswapped.conditions, ?_, ?_⟩
    · rw [hswapped.metadata]
      decide +kernel
    · rw [hswapped.metadata]
      rfl

end MemoryStore

end ClusterFleet
