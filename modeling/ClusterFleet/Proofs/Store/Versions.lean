import ClusterFleet.Proofs.Store.Later

/-!
# Store — versions

A store counts the versions it gives out, and every write takes the next
one: the authority puts or changes an object, or a client writes a status.
Over any history of operations the versions of the documents stay apart
and within the count (`Versioned`), and every write goes above all that
were given out (`Sound.of_writes`). So a version never comes back, also not
under a place that was emptied and filled again, and a status write with a
version that was shown finds the place as it was then (`Sound.unchanged`).

A change that reads an object and puts it back later, with other
operations between, is the put of another object: a history with puts of
arbitrary objects covers it.
-/

namespace ClusterFleet

namespace MemoryStore

/-! ## Histories -/

/-- One operation on a store: a change of the authority, a request of a
client, or the planting of faults. -/
inductive Operation where
  | put (kind : Kind) (object : Resource)
  | modify (kind : Kind) (key : Key) (change : Resource → Resource)
  | remove (kind : Kind) (key : Key)
  | get (kind : Kind) (key : Key)
  | list (kind : Kind)
  | updateStatus (kind : Kind) (object : Resource)
  | plantReadFault (fault : StoreError)
  | plantWriteFault (fault : StoreError)
  | plantConflicts (n : Nat)

namespace Operation

/-- The store after an operation. -/
def run : Operation → MemoryStore → MemoryStore
  | .put kind object, s => (s.put kind object).2
  | .modify kind key change, s => (s.modify kind key change).2
  | .remove kind key, s => (s.remove kind key).2
  | .get kind key, s => (s.get kind key).2
  | .list kind, s => (s.list kind).2
  | .updateStatus kind object, s => (s.updateStatus kind object).2
  | .plantReadFault fault, s => s.plantReadFault fault
  | .plantWriteFault fault, s => s.plantWriteFault fault
  | .plantConflicts n, s => s.plantConflicts n

/-- An operation writes an object, and returns it as written. -/
inductive Writes : Operation → MemoryStore → Kind → Resource → Prop
  | put (kind : Kind) (object : Resource) (s : MemoryStore) :
      Writes (.put kind object) s kind (s.put kind object).1
  | modify {kind : Kind} {key : Key} {change : Resource → Resource} {s : MemoryStore}
      {r : Resource} (h : (s.modify kind key change).1 = .ok r) :
      Writes (.modify kind key change) s kind r
  | updateStatus {kind : Kind} {object : Resource} {s : MemoryStore} {r : Resource}
      (h : (s.updateStatus kind object).1 = .ok r) :
      Writes (.updateStatus kind object) s kind r

/-- An operation shows the object under a kind and key to its caller. -/
inductive Shows : Operation → MemoryStore → Kind → Key → Resource → Prop
  /-- It wrote the object. -/
  | written {op : Operation} {s : MemoryStore} {kind : Kind} {r : Resource}
      (h : op.Writes s kind r) : Shows op s kind r.key r
  /-- It read the object. -/
  | found {kind : Kind} {key : Key} {s : MemoryStore} {r : Resource}
      (h : (s.get kind key).1 = .ok (some r)) : Shows (.get kind key) s kind key r
  /-- It read the objects of the kind. -/
  | listed {kind : Kind} {s : MemoryStore} {rs : List Resource} {r : Resource}
      (h : (s.list kind).1 = .ok rs) (hr : r ∈ rs) : Shows (.list kind) s kind r.key r

/-- An operation changes what stands under a kind and key: it writes there,
or it removes what is there. -/
inductive Changes : Operation → MemoryStore → Kind → Key → Prop
  | written {op : Operation} {s : MemoryStore} {kind : Kind} {r : Resource}
      (h : op.Writes s kind r) : Changes op s kind r.key
  | removed {kind : Kind} {key : Key} {s : MemoryStore}
      (h : (s.document? kind key).isSome = true) : Changes (.remove kind key) s kind key

end Operation

/-- The store after some operations. -/
def runAll (ops : List Operation) (s : MemoryStore) : MemoryStore :=
  ops.foldl (fun s op => op.run s) s

/-- The store that a history of operations makes. -/
def after (ops : List Operation) : MemoryStore := runAll ops empty

@[simp] theorem runAll_append (ops ops' : List Operation) (s : MemoryStore) :
    runAll (ops ++ ops') s = runAll ops' (runAll ops s) := List.foldl_append

@[simp] theorem runAll_cons (op : Operation) (ops : List Operation) (s : MemoryStore) :
    runAll (op :: ops) s = runAll ops (op.run s) := rfl

theorem after_append (ops ops' : List Operation) : after (ops ++ ops') = runAll ops' (after ops) :=
  runAll_append ops ops' empty

/-- What every operation keeps, every history keeps. -/
theorem runAll_of_run {P : MemoryStore → Prop} (hrun : ∀ op s, P s → P (Operation.run op s))
    (ops : List Operation) {s : MemoryStore} (h : P s) : P (runAll ops s) := by
  induction ops generalizing s with
  | nil => exact h
  | cons op rest ih => exact ih (hrun op s h)

/-! ## One operation -/

section Step

variable {s : MemoryStore} {op : Operation} {kind : Kind} {key : Key} {r : Resource}

theorem Later.of_run (hs : s.Sound) (op : Operation) : Later s (op.run s) := by
  cases op with
  | put kind object => exact .of_put hs kind object
  | modify kind key change => exact .of_edit hs (.modify kind key change s)
  | remove kind key => exact .of_edit hs (.remove kind key s)
  | get kind key => exact .of_consulted hs (hs.get_cases kind key).1
  | list kind => exact .of_consulted hs (hs.list_cases kind).1
  | updateStatus kind object => exact .of_updateStatus hs kind object
  | plantReadFault fault => exact .of_edit hs (.plantReadFault fault s)
  | plantWriteFault fault => exact .of_edit hs (.plantWriteFault fault s)
  | plantConflicts n => exact .of_edit hs (.plantConflicts n s)

theorem Later.of_runAll (hs : s.Sound) (ops : List Operation) : Later s (runAll ops s) :=
  runAll_of_run (fun op _ hlater => hlater.trans (.of_run hlater.sound op)) ops (.refl hs)

theorem sound_after (ops : List Operation) : (after ops).Sound :=
  (Later.of_runAll sound_empty ops).sound

/-- **A write takes the next version**, and holds the object it returns. -/
theorem Sound.of_writes (hs : s.Sound) (h : op.Writes s kind r) :
    r.metadata.version = some (Decimal.text (s.versions + 1)) ∧
      ∃ object, object.metadata.uid.isSome = true ∧ r = object.atVersion (s.versions + 1) ∧
        Consulted (s.hold kind object) (op.run s) := by
  cases h with
  | put kind object _ =>
    obtain ⟨hresult, hheld⟩ := put_eq kind object s
    exact ⟨by rw [hresult]; rfl, _, identified_uid object s, hresult, hheld⟩
  | @modify kind key change _ r h =>
    have hmodify := hs.modify_eq kind key change
    change _ ∧ ∃ object, _ ∧ _ ∧ Consulted _ (s.modify kind key change).2
    rw [hmodify] at h ⊢
    split at h
    · cases h
    · rename_i found _
      obtain rfl := Except.ok.inj h
      obtain ⟨hresult, hheld⟩ := put_eq kind (change found) s
      exact ⟨by rw [hresult]; rfl, _, identified_uid _ s, hresult, hheld⟩
  | @updateStatus kind object _ r h =>
    rcases hs.updateStatus_cases kind object with ⟨e, he, -⟩ | ⟨stored, hstored, -, hok, hheld⟩
    · rw [he] at h
      cases h
    · rw [hok] at h
      obtain rfl := Except.ok.inj h
      exact ⟨rfl, _, hs.merged_uid hstored object, rfl, hheld⟩

/-- What a write returns stands in the store. -/
theorem Sound.object?_of_writes (hs : s.Sound) (h : op.Writes s kind r) :
    (op.run s).object? kind r.key = some r ∧ (op.run s).versions = s.versions + 1 := by
  obtain ⟨-, object, -, rfl, hheld⟩ := hs.of_writes h
  refine ⟨?_, hheld.versions⟩
  rw [hheld.object?]
  exact object?_hold_self kind object s

/-- **What an operation shows** stands in the store after it, under its own
key. -/
theorem Sound.object?_of_shows (hs : s.Sound) (h : op.Shows s kind key r) :
    r.key = key ∧ (op.run s).object? kind key = some r := by
  cases h with
  | written h => exact ⟨rfl, (hs.object?_of_writes h).1⟩
  | @found kind key _ r h =>
    obtain ⟨hsame, ⟨fault, -, hfault⟩ | hok⟩ := hs.get_cases kind key
    · rw [hfault] at h
      cases h
    · rw [hok] at h
      have hfound := Except.ok.inj h
      exact ⟨(hs.found hfound).1, (hsame.object? kind key).trans hfound⟩
  | @listed kind _ rs r h hr =>
    obtain ⟨hsame, ⟨fault, -, hfault⟩ | hok⟩ := hs.list_cases kind
    · rw [hfault] at h
      cases h
    · rw [hok] at h
      obtain rfl := Except.ok.inj h
      have hmem : r ∈ s.objects kind := (perm_sortBy Resource.key (s.objects kind)).mem_iff.mp hr
      exact ⟨rfl, (hsame.object? kind r.key).trans (hs.mem_objects.mp hmem)⟩

/-- An operation writes an object, removes one, or leaves the documents and
the count of versions alone. -/
theorem Sound.run_cases (hs : s.Sound) (op : Operation) :
    (∃ kind r, op.Writes s kind r) ∨ (∃ kind key, op = .remove kind key) ∨
      (op.run s).entries = s.entries := by
  cases op with
  | put kind object => exact .inl ⟨kind, _, .put kind object s⟩
  | modify kind key change =>
    cases hok : (s.modify kind key change).1 with
    | ok r => exact .inl ⟨kind, r, .modify hok⟩
    | error e =>
      refine .inr (.inr ?_)
      change (s.modify kind key change).2.entries = _
      rw [hs.modify_eq] at hok ⊢
      split at hok
      · rfl
      · cases hok
  | remove kind key => exact .inr (.inl ⟨kind, key, rfl⟩)
  | get kind key => exact .inr (.inr (hs.get_cases kind key).1.entries)
  | list kind => exact .inr (.inr (hs.list_cases kind).1.entries)
  | updateStatus kind object =>
    rcases hs.updateStatus_cases kind object with ⟨e, -, -, hsame⟩ | ⟨stored, -, -, hok, -⟩
    · exact .inr (.inr hsame.entries)
    · exact .inl ⟨kind, _, .updateStatus hok⟩
  | plantReadFault => exact .inr (.inr rfl)
  | plantWriteFault => exact .inr (.inr rfl)
  | plantConflicts => exact .inr (.inr rfl)

end Step

/-! ## Versions stay apart -/

/-- The versions that documents carry. -/
def versionsIn (es : List Entry) : List (Option String) :=
  es.map fun e => documentVersion? e.document

/-- A new version stays apart from the others. -/
theorem nodup_versionsIn_insertDocument {kind : Kind} {key : Key} {document : Json}
    {es : List Entry} (h : (versionsIn es).Nodup)
    (hnew : documentVersion? document ∉ versionsIn es) :
    (versionsIn (insertDocument kind key document es)).Nodup := by
  induction es with
  | nil => exact List.nodup_singleton _
  | cons d rest ih =>
    obtain ⟨hd, hrest⟩ := List.nodup_cons.mp h
    have hlater : documentVersion? document ∉ versionsIn rest :=
      fun hmem => hnew (List.mem_cons_of_mem _ hmem)
    rw [insertDocument]
    split
    · exact List.nodup_cons.mpr ⟨hlater, hrest⟩
    · refine List.nodup_cons.mpr ⟨fun hmem => ?_, ih hrest hlater⟩
      obtain ⟨e, he, heq⟩ := List.mem_map.mp hmem
      rcases mem_insertDocument he with rfl | he
      · exact hnew (heq ▸ List.mem_cons_self)
      · exact hd (List.mem_map.mpr ⟨e, he, heq⟩)

/-- The versions that documents carry are below the next one. -/
theorem Sound.versions_lt {s : MemoryStore} (hs : s.Sound) : ∀ e ∈ s.entries,
    ∃ n, documentVersion? e.document = some (Decimal.text n) ∧ n < s.versions + 1 := by
  intro e he
  obtain ⟨r, hr, hnumbered⟩ := hs.written e he
  obtain ⟨n, -, hle, hn⟩ := hnumbered.version
  have hdocument : e.document = r.write := congrArg Entry.document hr
  exact ⟨n, by rw [hdocument, documentVersion?_write, hn], Nat.lt_succ_of_le hle⟩

/-- No document carries the next version. -/
theorem Sound.next_notMem {s : MemoryStore} (hs : s.Sound) :
    some (Decimal.text (s.versions + 1)) ∉ versionsIn s.entries := by
  intro hmem
  obtain ⟨e, he, hversion⟩ := List.mem_map.mp hmem
  obtain ⟨n, hn, hlt⟩ := hs.versions_lt e he
  rw [hn] at hversion
  have := Decimal.text_injective (Option.some.inj hversion)
  omega

/-- A sound store whose documents all carry different versions. -/
structure Distinct (s : MemoryStore) : Prop where
  sound : s.Sound
  apart : (versionsIn s.entries).Nodup

/-- **Every operation keeps versions apart**: it writes at the next version,
or it removes a document, or it leaves the documents alone. -/
theorem Distinct.run {s : MemoryStore} (h : Distinct s) (op : Operation) : Distinct (op.run s) := by
  refine ⟨(Later.of_run h.sound op).sound, ?_⟩
  rcases h.sound.run_cases op with ⟨kind, r, hwrites⟩ | ⟨kind, key, rfl⟩ | hsame
  · obtain ⟨-, object, -, -, hheld⟩ := h.sound.of_writes hwrites
    rw [hheld.entries]
    refine nodup_versionsIn_insertDocument h.apart ?_
    rw [documentVersion?_write, Resource.atVersion_version]
    exact h.sound.next_notMem
  · exact h.apart.sublist (List.filter_sublist.map _)
  · rw [hsame]
    exact h.apart

theorem distinct_after (ops : List Operation) : Distinct (after ops) :=
  runAll_of_run (fun op _ h => h.run op) ops ⟨sound_empty, List.nodup_nil⟩

/-- What a store keeps of its versions: each document is one of an object
that stands under its own key, has an identity, and carries a version that
was given out; and no two documents carry the same version. -/
structure Versioned (s : MemoryStore) : Prop where
  /-- Each document reads as an object of its kind, under the object's key. -/
  numbered : ∀ e ∈ s.entries, ∃ r, decode e.kind e.document = .ok r ∧ r.key = e.key ∧
    r.metadata.uid.isSome = true ∧
    ∃ n, 1 ≤ n ∧ n ≤ s.versions ∧ documentVersion? e.document = some (Decimal.text n) ∧
      r.metadata.version = some (Decimal.text n)
  /-- No two documents carry the same version. -/
  apart : s.entries.Pairwise fun d e => documentVersion? d.document ≠ documentVersion? e.document

theorem Distinct.versioned {s : MemoryStore} (h : Distinct s) : Versioned s := by
  refine ⟨fun e he => ?_, List.pairwise_map.mp h.apart⟩
  obtain ⟨r, hr, hnumbered⟩ := h.sound.written e he
  obtain ⟨n, hone, hle, hn⟩ := hnumbered.version
  have hdocument : e.document = r.write := congrArg Entry.document hr
  refine ⟨r, ?_, (congrArg Entry.key hr).symm, hnumbered.uid, n, hone, hle, ?_, hn⟩
  · rw [hdocument, decode_write]
  · rw [hdocument, documentVersion?_write, hn]

/-! ## What was shown and is still current -/

section Shown

variable {s s' : MemoryStore} {op : Operation} {kind : Kind} {key : Key}
variable {object r written : Resource}

/-- An object that stands under the same key, before and after, stood there
all the time between: what is put there anew has a new version. -/
theorem Later.object?_between {s₁ s₂ : MemoryStore} (hs : s.Sound) (h : s.object? kind key = some r)
    (h₁ : Later s s₁) (h₂ : Later s₁ s₂) (hend : s₂.object? kind key = some r) :
    s₁.object? kind key = some r := by
  rcases h₂.objects hend with hmid | ⟨n, hlt, -, hn⟩
  · exact hmid
  · obtain ⟨m, -, hle, hm⟩ := (hs.found h).2.1.version
    rw [hm] at hn
    have hmn := Decimal.text_injective (Option.some.inj hn)
    have hversions := h₁.versions
    omega

/-- An operation after which the same object stands in its place did not
change the place. -/
theorem Sound.not_changes (hs : s.Sound) (h : s.object? kind key = some r)
    (hafter : (op.run s).object? kind key = some r) : ¬op.Changes s kind key := by
  intro hchanges
  cases hchanges with
  | @written _ _ _ r' hwrites =>
    -- the object written there has the next version, and the one before it an older one
    rw [(hs.object?_of_writes hwrites).1] at hafter
    obtain rfl := Option.some.inj hafter
    obtain ⟨n, -, hle, hn⟩ := (hs.found h).2.1.version
    rw [(hs.of_writes hwrites).1] at hn
    have := Decimal.text_injective (Option.some.inj hn)
    omega
  | removed =>
    change (s.remove kind key).2.object? kind key = some r at hafter
    rw [object?_remove, if_pos rfl] at hafter
    cases hafter

/-- Nothing under a kind and key changes while some operations run: none of
them changes it, and its document stays what it was. -/
def Unchanged (kind : Kind) (key : Key) (s : MemoryStore) (later : List Operation) : Prop :=
  ∀ earlier op rest, later = earlier ++ op :: rest →
    ¬op.Changes (runAll earlier s) kind key ∧
      (runAll (earlier ++ [op]) s).document? kind key = s.document? kind key

/-- **A status write with a known version finds its object unchanged.** What
it writes over has the version it read, so it is what was read, and it was
there all the time. -/
theorem Sound.unchanged (hs : s.Sound) (h : s.object? kind key = some r) {later : List Operation}
    (hkey : object.key = key) (hversion : object.metadata.version = r.metadata.version)
    (hok : ((runAll later s).updateStatus kind object).1 = .ok written) :
    Unchanged kind key s later := by
  have hend : (runAll later s).object? kind key = some r := by
    have hlater := Later.of_runAll hs later
    rcases hlater.sound.updateStatus_cases kind object with ⟨e, he, -⟩ | ⟨stored, hstored, hat, -⟩
    · rw [he] at hok
      cases hok
    · rw [hkey] at hstored
      rw [hstored, ((IsKnown.of_found hs h).later hlater).same stored hstored
        (hat.symm.trans hversion)]
  -- it stands there at both ends, so it does after every part of the history
  have hmid : ∀ earlier rest, later = earlier ++ rest →
      (runAll earlier s).object? kind key = some r := by
    intro earlier rest hsplit
    have hfirst := Later.of_runAll hs earlier
    have hrest := Later.of_runAll hfirst.sound rest
    rw [hsplit, runAll_append] at hend
    exact hfirst.object?_between hs h hrest hend
  intro earlier op rest hsplit
  have hbefore := hmid earlier (op :: rest) hsplit
  have hafter := hmid (earlier ++ [op]) rest (by rw [hsplit, List.append_assoc]; rfl)
  refine ⟨?_, ?_⟩
  · rw [runAll_append] at hafter
    exact (Later.of_runAll hs earlier).sound.not_changes hbefore hafter
  · rw [(Later.of_runAll hs _).sound.document?, hs.document?, hafter, h]

end Shown

/-! ## Versions are never reused -/

/-- **Versions are never reused.** After any history of operations on an
empty store each document reads as an object of its kind under its own key,
with an identity and a version that was given out, and no two documents
carry the same version. Every write goes above all versions given out
before it, and so above what stood in its place, and above every earlier
write; what it returns then stands in its place. A status write with the
version of an object that an earlier operation showed succeeds only if no
operation has changed the object's place since. -/
theorem versions_are_never_reused (ops : List Operation) :
    Versioned (after ops) ∧
      (∀ (op : Operation) (kind : Kind) (r : Resource), op.Writes (after ops) kind r →
        (after (ops ++ [op])).document? kind r.key = some r.write ∧
        ∃ n, r.metadata.version = some (Decimal.text n) ∧ (after ops).versions < n ∧
          n ≤ (after (ops ++ [op])).versions ∧
          ∀ (later : List Operation) (op' : Operation) (kind' : Kind) (r' : Resource),
            op'.Writes (after (ops ++ op :: later)) kind' r' →
            ∃ n', r'.metadata.version = some (Decimal.text n') ∧ n < n') ∧
      ∀ (op : Operation) (later : List Operation) (kind : Kind) (key : Key)
        (r object written : Resource), op.Shows (after ops) kind key r →
        object.key = key → object.metadata.version = r.metadata.version →
        ((after (ops ++ op :: later)).updateStatus kind object).1 = .ok written →
        r.key = key ∧ (after (ops ++ [op])).document? kind key = some r.write ∧
          Unchanged kind key (after (ops ++ [op])) later := by
  have hs := sound_after ops
  refine ⟨(distinct_after ops).versioned, ?_, ?_⟩
  · intro op kind r hwrites
    obtain ⟨hstands, hcount⟩ := hs.object?_of_writes hwrites
    have hrun : Later (after ops) (op.run (after ops)) := .of_run hs op
    rw [after_append, runAll_cons]
    refine ⟨(hrun.sound.found hstands).2.2, _, (hs.of_writes hwrites).1, Nat.lt_succ_self _,
      Nat.le_of_eq hcount.symm, ?_⟩
    -- a later write counts on from a store that has given out at least as many
    intro later op' kind' r' hwrites'
    have hs' := sound_after (ops ++ op :: later)
    have hlater := Later.of_runAll hrun.sound later
    have hversions := hlater.versions
    refine ⟨_, (hs'.of_writes hwrites').1, ?_⟩
    rw [after_append, runAll_cons]
    omega
  · intro op later kind key r object written hshows hkey hversion hok
    have hrun : Later (after ops) (op.run (after ops)) := .of_run hs op
    obtain ⟨hown, hstands⟩ := hs.object?_of_shows hshows
    rw [after_append, runAll_cons] at hok ⊢
    exact ⟨hown, (hrun.sound.found hstands).2.2, hrun.sound.unchanged hstands hkey hversion hok⟩

/-- A set without conditions. -/
def Operation.putSet (name : String) : Operation := .put .set ⟨⟨name, none, none, none, [], none⟩, []⟩

/-- The set as the first operation of a history returns it can be written
after another set was put, and can no longer be written after it was removed
and put again. -/
theorem versions_are_never_reused_recreated : ∃ shown written : Resource,
    (Operation.putSet "a").Shows (after []) .set (.cluster "a") shown ∧
      ((after [.putSet "a", .putSet "b"]).updateStatus .set shown).1 = .ok written ∧
      Unchanged .set (.cluster "a") (after [.putSet "a"]) [.putSet "b"] ∧
      ∀ late, ((after [.putSet "a", .remove .set (.cluster "a"), .putSet "a"]).updateStatus
        .set shown).1 ≠ .ok late := by
  let shown := (empty.put .set ⟨⟨"a", none, none, none, [], none⟩, []⟩).1
  have hshows : (Operation.putSet "a").Shows (after []) .set (.cluster "a") shown :=
    .written (.put .set ⟨⟨"a", none, none, none, [], none⟩, []⟩ empty)
  have hok : ((after [.putSet "a", .putSet "b"]).updateStatus .set shown).1.toOption.isSome = true := by
    decide +kernel
  have hremoved : ((after [.putSet "a"]).document? .set (.cluster "a")).isSome = true := by
    decide +kernel
  obtain ⟨-, -, current⟩ := versions_are_never_reused []
  cases hwritten : ((after [.putSet "a", .putSet "b"]).updateStatus .set shown).1 with
  | error e =>
    rw [hwritten] at hok
    cases hok
  | ok written =>
    refine ⟨shown, written, hshows, hwritten, ?_, fun late hlate => ?_⟩
    · exact (current _ [.putSet "b"] _ _ _ _ _ hshows rfl rfl hwritten).2.2
    · have hunchanged := (current _ [.remove .set (.cluster "a"), .putSet "a"] _ _ _ _ _ hshows
        rfl rfl hlate).2.2
      exact (hunchanged [] _ _ rfl).1 (.removed hremoved)

end MemoryStore

end ClusterFleet
