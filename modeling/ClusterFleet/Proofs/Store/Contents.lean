import ClusterFleet.Proofs.Object.RoundTrip
import ClusterFleet.Proofs.Decimal.Digits
import ClusterFleet.Store.Memory
import Mathlib.Data.List.Nodup

/-!
# Store — contents

What a store in memory holds, as objects: `object?` under a kind and key,
`objects` of a kind. A sound store (`Sound`) holds only documents that
were written from objects, each under the object's own key and with a
version that the store has given out. On a sound store the edits of a
document are edits of the object (`setStatus_write`, `setVersion_write`),
and putting a document in place changes the object under one kind and key
(`object?_hold`).
-/

namespace ClusterFleet

/-! ## Edits of documents -/

namespace Fields

variable {α : Type}

/-- A name goes past the fields whose names are before it. -/
theorem insert_append {name : String} {held : List (String × α)}
    (h : ∀ p ∈ held, name ≠ p.1 ∧ ¬name < p.1) (v : α) (later : List (String × α)) :
    insert name v (held ++ later) = held ++ insert name v later := by
  induction held with
  | nil => rfl
  | cons p rest ih =>
    obtain ⟨hne, hlt⟩ := h p List.mem_cons_self
    rw [List.cons_append, insert, if_neg hne, if_neg hlt,
      ih fun q hq => h q (List.mem_cons_of_mem _ hq), List.cons_append]

end Fields

namespace Resource

/-- The object at a version. -/
def atVersion (n : Nat) (r : Resource) : Resource :=
  { r with metadata := { r.metadata with version := some (Decimal.text n) } }

@[simp] theorem atVersion_key (n : Nat) (r : Resource) : (r.atVersion n).key = r.key := rfl

@[simp] theorem atVersion_conditions (n : Nat) (r : Resource) :
    (r.atVersion n).conditions = r.conditions := rfl

@[simp] theorem atVersion_version (n : Nat) (r : Resource) :
    (r.atVersion n).metadata.version = some (Decimal.text n) := rfl

end Resource

namespace Metadata

theorem mem_shown {name : String} {value : Option Json} {p : String × Json}
    (h : p ∈ shown name value) : p.1 = name := by
  cases value with
  | none => cases h
  | some v =>
    rw [List.mem_singleton.mp h]

/-- The version of metadata stands between the fields before it and the
identity. -/
theorem insert_version (m : Metadata) (h : m.version.isSome = true) (n : Nat) :
    ∃ fields, m.write = .object fields ∧
      Json.object (Fields.insert "resourceVersion" (.string (Decimal.text n)) fields) =
        { m with version := some (Decimal.text n) }.write := by
  obtain ⟨old, hold⟩ := Option.isSome_iff_exists.mp h
  refine ⟨_, rfl, ?_⟩
  rw [hold, List.append_assoc, Fields.insert_append]
  · simp only [write, Option.map_some, shown, List.cons_append, List.nil_append, List.append_assoc,
      Fields.insert, if_true]
  · intro p hp
    simp only [List.mem_append, List.mem_singleton] at hp
    rcases hp with ((hp | hp) | rfl) | hp
    · rw [mem_shown hp]; decide
    · rw [mem_shown hp]; decide
    · change "resourceVersion" ≠ "name" ∧ ¬"resourceVersion" < "name"
      decide
    · rw [mem_shown hp]; decide

end Metadata

namespace MemoryStore

/-- The version of a written object is read off its document. -/
theorem documentVersion?_write (r : Resource) :
    documentVersion? r.write = r.metadata.version := by
  have hmeta : r.write.field? "metadata" = some r.metadata.write := by
    simp [Resource.write, Json.field?, Fields.get?]
  have hversion : r.metadata.write.field? "resourceVersion" = r.metadata.version.map .string := by
    simp [Metadata.write, Json.field?, Fields.get?_append, Metadata.get?_shown, Fields.get?]
  rw [documentVersion?, hmeta, Option.bind_some, hversion]
  cases r.metadata.version <;> rfl

theorem setStatus_write (cs : List Condition) (r : Resource) :
    setStatus (Resource.writeStatus cs) r.write = { r with conditions := cs }.write := by
  let held : List (String × Json) := [("metadata", r.metadata.write)]
  have hpast : ∀ p ∈ held, "status" ≠ p.1 ∧ ¬"status" < p.1 := by
    intro p hp
    rw [List.mem_singleton.mp hp]
    change "status" ≠ "metadata" ∧ ¬"status" < "metadata"
    decide
  exact congrArg Json.object (Fields.insert_append hpast (Resource.writeStatus cs)
    [("status", Resource.writeStatus r.conditions)])

theorem setVersion_write {r : Resource} (h : r.metadata.version.isSome = true) (n : Nat) :
    setVersion n r.write = (r.atVersion n).write := by
  obtain ⟨fields, hfields, hinsert⟩ := r.metadata.insert_version h n
  simp [setVersion, Resource.write, Fields.get?, hfields, Fields.insert, hinsert, Resource.atVersion]

/-- A document that was written holds the object. -/
theorem decode_write (kind : Kind) (r : Resource) : decode kind r.write = .ok r := by
  rw [decode, Resource.read_write]

/-! ## Entries -/

/-- Whether an entry stands under a kind and key. -/
def stands (kind : Kind) (key : Key) (e : Entry) : Bool := e.kind = kind && e.key = key

theorem stands_iff {kind : Kind} {key : Key} {e : Entry} :
    stands kind key e = true ↔ (e.kind, e.key) = (kind, key) := by
  simp [stands]

/-- What is put in place is found under its kind and key, and nothing else
changes. -/
theorem find?_insertDocument (kind kind' : Kind) (key key' : Key) (document : Json)
    (es : List Entry) :
    (insertDocument kind key document es).find? (stands kind' key') =
      if (kind, key) = (kind', key') then some ⟨kind, key, document⟩
      else es.find? (stands kind' key') := by
  induction es with
  | nil =>
    rw [insertDocument, List.find?_singleton, List.find?_nil]
    simp only [stands_iff]
  | cons e rest ih =>
    rw [insertDocument]
    change (if stands kind key e = true then _ else _ : List Entry).find? _ = _
    split
    · rename_i he
      rw [stands_iff] at he
      by_cases hkey : (kind, key) = (kind', key')
      · rw [if_pos hkey, List.find?_cons_of_pos (stands_iff.mpr hkey)]
      · rw [if_neg hkey, List.find?_cons_of_neg (fun h => hkey (stands_iff.mp h)),
          List.find?_cons_of_neg (fun h => hkey (he.symm.trans (stands_iff.mp h)))]
    · rename_i he
      by_cases hmatch : stands kind' key' e = true
      · have hkey : (kind, key) ≠ (kind', key') := by
          rintro ⟨rfl, rfl⟩
          exact he hmatch
        rw [if_neg hkey, List.find?_cons_of_pos hmatch, List.find?_cons_of_pos hmatch]
      · rw [List.find?_cons_of_neg hmatch, List.find?_cons_of_neg hmatch, ih]

theorem mem_insertDocument {kind : Kind} {key : Key} {document : Json} {es : List Entry}
    {e : Entry} (h : e ∈ insertDocument kind key document es) :
    e = ⟨kind, key, document⟩ ∨ e ∈ es := by
  induction es with
  | nil => exact .inl (List.mem_singleton.mp h)
  | cons d rest ih =>
    rw [insertDocument] at h
    split at h
    · rcases List.mem_cons.mp h with rfl | h
      · exact .inl rfl
      · exact .inr (List.mem_cons_of_mem _ h)
    · rcases List.mem_cons.mp h with rfl | h
      · exact .inr List.mem_cons_self
      · exact (ih h).imp_right (List.mem_cons_of_mem _)

/-- The places of a list of entries. -/
def places (es : List Entry) : List (Kind × Key) := es.map fun e => (e.kind, e.key)

/-- A place is taken once, also after a document was put in place. -/
theorem nodup_places_insertDocument {kind : Kind} {key : Key} {document : Json}
    {es : List Entry} (h : (places es).Nodup) :
    (places (insertDocument kind key document es)).Nodup := by
  induction es with
  | nil => exact List.nodup_singleton _
  | cons d rest ih =>
    obtain ⟨hd, hrest⟩ := List.nodup_cons.mp h
    rw [insertDocument]
    split
    · rename_i hat
      change ((kind, key) :: places rest).Nodup
      rw [← stands_iff.mp hat]
      exact h
    · rename_i hat
      refine List.nodup_cons.mpr ⟨fun hmem => ?_, ih hrest⟩
      obtain ⟨e, he, heq⟩ := List.mem_map.mp hmem
      rcases mem_insertDocument he with rfl | he
      · exact hat (stands_iff.mpr heq.symm)
      · exact hd (List.mem_map.mpr ⟨e, he, heq⟩)

/-- Where places are taken once, an entry is found at its place. -/
theorem find?_of_mem {es : List Entry} (h : (places es).Nodup) {e : Entry} (he : e ∈ es) :
    es.find? (stands e.kind e.key) = some e := by
  induction es with
  | nil => cases he
  | cons d rest ih =>
    obtain ⟨hd, hrest⟩ := List.nodup_cons.mp h
    rcases List.mem_cons.mp he with rfl | he
    · exact List.find?_cons_of_pos (stands_iff.mpr rfl)
    · rw [List.find?_cons_of_neg, ih hrest he]
      intro hat
      exact hd (List.mem_map.mpr ⟨e, he, (stands_iff.mp hat).symm⟩)

/-! ## Objects -/

/-- The object under a kind and key. -/
def object? (s : MemoryStore) (kind : Kind) (key : Key) : Option Resource :=
  (s.document? kind key).bind fun document => (decode kind document).toOption

/-- The objects of a kind, in the order in which the store holds their
documents. -/
def objects (s : MemoryStore) (kind : Kind) : List Resource :=
  (s.entries.filter fun e => e.kind = kind).filterMap fun e => (decode kind e.document).toOption

/-- An object carries a version that was given out, and an identity. -/
structure IsNumbered (versions : Nat) (r : Resource) : Prop where
  /-- Its version is one of those given out. -/
  version : ∃ n, 1 ≤ n ∧ n ≤ versions ∧ r.metadata.version = some (Decimal.text n)
  uid : r.metadata.uid.isSome = true

theorem IsNumbered.isSome {versions : Nat} {r : Resource} (h : IsNumbered versions r) :
    r.metadata.version.isSome = true := by
  obtain ⟨n, -, -, hn⟩ := h.version
  rw [hn]
  rfl

theorem IsNumbered.mono {versions versions' : Nat} {r : Resource} (h : IsNumbered versions r)
    (hle : versions ≤ versions') : IsNumbered versions' r := by
  obtain ⟨n, hone, hn, hversion⟩ := h.version
  exact ⟨⟨n, hone, by omega, hversion⟩, h.uid⟩

/-- **A sound store** holds only documents of objects, each at the place of
its object, with a version that the store gave out, and one at each place. -/
structure Sound (s : MemoryStore) : Prop where
  /-- Every document was written from an object. -/
  written : ∀ e ∈ s.entries, ∃ r : Resource,
    e = ⟨e.kind, r.key, r.write⟩ ∧ IsNumbered s.versions r
  nodup : (places s.entries).Nodup

theorem sound_empty : Sound empty :=
  ⟨fun _ h => absurd h List.not_mem_nil, List.nodup_nil⟩

section Sound

variable {s : MemoryStore} {kind kind' : Kind} {key key' : Key} {r : Resource}

theorem object?_eq (s : MemoryStore) (kind : Kind) (key : Key) :
    s.object? kind key =
      (s.entries.find? (stands kind key)).bind fun e => (decode kind e.document).toOption := by
  rw [object?, document?, Option.bind_map]
  rfl

/-- An entry of a sound store holds the object found at its place. -/
theorem Sound.entry (hs : s.Sound) {e : Entry} (he : e ∈ s.entries) :
    ∃ r : Resource, e = ⟨e.kind, r.key, r.write⟩ ∧ IsNumbered s.versions r ∧
      s.object? e.kind r.key = some r := by
  obtain ⟨r, hr, hn⟩ := hs.written e he
  have hfind := find?_of_mem hs.nodup he
  have hkey : e.key = r.key := congrArg Entry.key hr
  rw [hkey] at hfind
  refine ⟨r, hr, hn, ?_⟩
  rw [object?_eq, hfind, Option.bind_some, congrArg Entry.document hr, decode_write]
  rfl

/-- **What is found under a key** has this key, carries a version that was
given out, and is the stored document. -/
theorem Sound.found (hs : s.Sound) (h : s.object? kind key = some r) :
    r.key = key ∧ IsNumbered s.versions r ∧ s.document? kind key = some r.write := by
  rw [object?_eq] at h
  obtain ⟨e, he, hdecode⟩ := Option.bind_eq_some_iff.mp h
  have hat := stands_iff.mp (List.find?_some he)
  obtain ⟨r', hr', hn, -⟩ := hs.entry (List.mem_of_find?_eq_some he)
  obtain ⟨hkind, hkey⟩ := Prod.mk.inj hat
  have hdocument : e.document = r'.write := congrArg Entry.document hr'
  rw [hdocument, decode_write] at hdecode
  obtain rfl : r' = r := Option.some.inj hdecode
  refine ⟨?_, hn, ?_⟩
  · rw [← hkey]
    exact (congrArg Entry.key hr').symm
  · change (s.entries.find? (stands kind key)).map _ = _
    rw [he, Option.map_some, hdocument]

/-- There is a document where there is an object. -/
theorem Sound.document? (hs : s.Sound) (kind : Kind) (key : Key) :
    s.document? kind key = (s.object? kind key).map Resource.write := by
  cases hobject : s.object? kind key with
  | some r => exact (hs.found hobject).2.2
  | none =>
    cases hfind : s.entries.find? (stands kind key) with
    | none =>
      change (s.entries.find? (stands kind key)).map _ = _
      rw [hfind]
      rfl
    | some e =>
      obtain ⟨r, hr, -⟩ := hs.written e (List.mem_of_find?_eq_some hfind)
      rw [object?_eq, hfind, Option.bind_some, congrArg Entry.document hr, decode_write] at hobject
      cases hobject

/-- **The objects of a kind** are those found under their keys. -/
theorem Sound.mem_objects (hs : s.Sound) :
    r ∈ s.objects kind ↔ s.object? kind r.key = some r := by
  constructor
  · intro h
    obtain ⟨e, he, hdecode⟩ := List.mem_filterMap.mp h
    obtain ⟨he, hkind⟩ := List.mem_filter.mp he
    obtain ⟨r', hr', -, hfound⟩ := hs.entry he
    rw [congrArg Entry.document hr', decode_write] at hdecode
    obtain rfl : r' = r := Option.some.inj hdecode
    rw [← of_decide_eq_true hkind]
    exact hfound
  · intro h
    rw [object?_eq] at h
    obtain ⟨e, he, hdecode⟩ := Option.bind_eq_some_iff.mp h
    have hkind := (Prod.mk.inj (stands_iff.mp (List.find?_some he))).1
    exact List.mem_filterMap.mpr ⟨e, List.mem_filter.mpr
      ⟨List.mem_of_find?_eq_some he, decide_eq_true hkind⟩, hdecode⟩

/-- What is found under a key is one of the objects of its kind. -/
theorem Sound.mem_of_found (hs : s.Sound) (h : s.object? kind key = some r) : r ∈ s.objects kind := by
  have hkey : r.key = key := (hs.found h).1
  exact hs.mem_objects.mpr (hkey ▸ h)

/-- No two objects of a kind have the same key. -/
theorem Sound.nodup_objects (hs : s.Sound) (kind : Kind) :
    ((s.objects kind).map Resource.key).Nodup := by
  have hwritten := hs.written
  have hnodup := hs.nodup
  unfold objects
  generalize s.entries = es at hwritten hnodup
  induction es with
  | nil => exact List.nodup_nil
  | cons e rest ih =>
    obtain ⟨he, hrest⟩ := List.nodup_cons.mp hnodup
    have hlater := ih (fun d hd => hwritten d (List.mem_cons_of_mem _ hd)) hrest
    by_cases hkind : e.kind = kind
    · obtain ⟨r, hr, -⟩ := hwritten e List.mem_cons_self
      rw [List.filter_cons, if_pos (decide_eq_true hkind), List.filterMap_cons,
        congrArg Entry.document hr, decode_write]
      refine List.nodup_cons.mpr ⟨fun hmem => he ?_, hlater⟩
      obtain ⟨r', hr', hkey⟩ := List.mem_map.mp hmem
      obtain ⟨d, hd, hdecode⟩ := List.mem_filterMap.mp hr'
      obtain ⟨hd, hdkind⟩ := List.mem_filter.mp hd
      obtain ⟨r'', hr'', -⟩ := hwritten d (List.mem_cons_of_mem _ hd)
      rw [congrArg Entry.document hr'', decode_write] at hdecode
      obtain rfl : r'' = r' := Option.some.inj hdecode
      refine List.mem_map.mpr ⟨d, hd, Prod.ext ?_ ?_⟩
      · exact (of_decide_eq_true hdkind).trans hkind.symm
      · exact (congrArg Entry.key hr'').trans (hkey.trans (congrArg Entry.key hr).symm)
    · rw [List.filter_cons, if_neg fun h => hkind (of_decide_eq_true h)]
      exact hlater

end Sound

/-! ## Writing -/

/-- The store with an object in place, at the next version. -/
def hold (kind : Kind) (r : Resource) (s : MemoryStore) : MemoryStore :=
  { s with
    entries := insertDocument kind r.key (r.atVersion (s.versions + 1)).write s.entries
    versions := s.versions + 1 }

section Writing

variable {s s' : MemoryStore} {kind kind' : Kind} {key key' : Key} {r : Resource}

/-- **Holding an object changes one place**: under the object's kind and key
it is found at the new version, and everything else is as it was. -/
theorem object?_hold (kind kind' : Kind) (r : Resource) (key' : Key) (s : MemoryStore) :
    (s.hold kind r).object? kind' key' =
      if (kind, r.key) = (kind', key') then some (r.atVersion (s.versions + 1))
      else s.object? kind' key' := by
  rw [object?_eq, object?_eq, hold, find?_insertDocument]
  split
  · rename_i heq
    rw [Option.bind_some, decode_write]
    rfl
  · rfl

theorem object?_hold_self (kind : Kind) (r : Resource) (s : MemoryStore) :
    (s.hold kind r).object? kind r.key = some (r.atVersion (s.versions + 1)) := by
  rw [object?_hold, if_pos rfl]

theorem object?_hold_of_ne (h : (kind, r.key) ≠ (kind', key')) :
    (s.hold kind r).object? kind' key' = s.object? kind' key' := by
  rw [object?_hold, if_neg h]

theorem Sound.hold (hs : s.Sound) (kind : Kind) (huid : r.metadata.uid.isSome = true) :
    (s.hold kind r).Sound := by
  refine ⟨fun e he => ?_, nodup_places_insertDocument hs.nodup⟩
  rcases mem_insertDocument he with rfl | he
  · exact ⟨r.atVersion (s.versions + 1), rfl, ⟨s.versions + 1, by omega, by
      change s.versions + 1 ≤ s.versions + 1
      omega, rfl⟩, huid⟩
  · obtain ⟨r', hr', hn⟩ := hs.written e he
    exact ⟨r', hr', hn.mono (Nat.le_succ _)⟩

end Writing

end MemoryStore

end ClusterFleet
