import ClusterFleet.Proofs.Object.Conditions
import ClusterFleet.Proofs.Store.Later
import ClusterFleet.Proofs.Update.Position

/-!
# Status updates — what a step does to the store

An update holds what it read until it writes, and meanwhile others may
have written. `Fits` is what it may rely on: the state it read is the
stored one if the versions agree. So a write that succeeds applies the
mutations to the status stored just before it (`Applied`), and every other
step leaves the objects alone (`Quiet`).
-/

namespace ClusterFleet

open MemoryStore

/-- **A write applied the mutations of a job**: what is stored after it is
what was stored before it, with the conditions that the mutations make of
those it had, and with another version; and no other object changed. -/
structure Applied (job : UpdateJob) (written : Resource) (before after : MemoryStore) : Prop where
  /-- The mutations were applied to the status stored before, and nothing
  else of the object changed but its version. -/
  stored : ∃ stored n, before.object? job.kind job.key = some stored ∧
    Mutation.applyAll job.mutations stored.conditions = .ok written.conditions ∧
    written = Resource.atVersion n { stored with conditions := written.conditions }
  found : after.object? job.kind job.key = some written
  others : ∀ {kind : Kind} {key : Key}, (job.kind, job.key) ≠ (kind, key) →
    after.object? kind key = before.object? kind key

namespace StatusUpdate

/-- Several conditions are set one after the other. -/
theorem applyAll_set_cons (d : Condition) (desired cs : List Condition) :
    Mutation.applyAll ((d :: desired).map Mutation.set) cs =
      match Condition.set d cs with
      | some cs' => Mutation.applyAll (desired.map Mutation.set) cs'
      | none => .error .beyondCalendar := by
  rw [List.map_cons, Mutation.applyAll, Mutation.set]
  cases Condition.set d cs <;> rfl

/-- Where several conditions could be set, the first could be, and then the
others. -/
theorem set_of_applyAll_cons {d : Condition} {desired cs cs' : List Condition}
    (h : Mutation.applyAll ((d :: desired).map Mutation.set) cs = .ok cs') :
    ∃ mid, Condition.set d cs = some mid ∧
      Mutation.applyAll (desired.map Mutation.set) mid = .ok cs' := by
  rw [applyAll_set_cons] at h
  cases hset : Condition.set d cs with
  | none =>
    rw [hset] at h
    cases h
  | some mid =>
    rw [hset] at h
    exact ⟨mid, rfl, h⟩

/-- What an update relies on at a position: before the write, that it holds
a state of the object that was read, and what the mutations make of it. -/
def Fits (s : MemoryStore) (job : UpdateJob) : Position → Prop
  | .writing _ _ read conditions =>
    s.IsKnown job.kind job.key read ∧
      Mutation.applyAll job.mutations read.conditions = .ok conditions
  | _ => True

/-- Whether an update has written these conditions. -/
def Position.Returns (conditions : List Condition) : Position → Prop
  | .wrote written => written.conditions = conditions
  | .ended result => result = .ok ⟨conditions, true⟩
  | _ => False

/-- Whether an update has a result that is no error, or will have it after
its write was counted. -/
def Position.IsOk : Position → Prop
  | .wrote _ => True
  | .ended (.ok _) => True
  | _ => False

/-- The mutations of a job leave the stored status as it is. -/
def LeavesStored (s : MemoryStore) (job : UpdateJob) : Prop :=
  ∃ stored, s.object? job.kind job.key = some stored ∧
    Mutation.applyAll job.mutations stored.conditions = .ok stored.conditions

/-- Whether a call is a status write that succeeds. -/
def Writes (s : MemoryStore) (c : Option Call) (written : Resource) : Prop :=
  ∃ kind object, c = some (.updateStatus kind object) ∧
    (s.updateStatus kind object).1 = .ok written

variable {job : UpdateJob} {pos pos' : Position} {h h' : Hub MemoryStore} {c : Option Call}
variable {s s' : MemoryStore}

/-- What an update relies on goes on holding, however old the store
grows. -/
theorem Fits.later (fits : Fits s job pos) (later : Later s s') : Fits s' job pos := by
  cases pos with
  | writing => exact ⟨fits.1.later later, fits.2⟩
  | reading => trivial
  | wrote => trivial
  | lost => trivial
  | drawing => trivial
  | sleeping => trivial
  | late => trivial
  | ended => trivial
  | broken => trivial

/-- **A quiet step** writes nothing, and whether the update has written is
as before. If it has come to a result that is no error, then because the
mutations leave the stored status as it is. -/
structure Quiet (job : UpdateJob) (pos pos' : Position) (c : Option Call)
    (before after : MemoryStore) : Prop where
  same : Consulted before after
  fits : Fits after job pos'
  none : ∀ written, ¬Writes before c written
  /-- It has written if it had. -/
  returns : ∀ conditions, pos'.Returns conditions ↔ pos.Returns conditions
  /-- A new result means that there was nothing to write. -/
  ok : pos'.IsOk → pos.IsOk ∨ LeavesStored before job

/-- **A write step**: the update had not written before, and has now. -/
structure Wrote (job : UpdateJob) (pos pos' : Position) (c : Option Call) (written : Resource)
    (before after : MemoryStore) : Prop where
  /-- It is about to count its write. -/
  position : pos' = .wrote written
  /-- It had not written before. -/
  first : ∀ conditions, ¬pos.Returns conditions
  writes : ∀ other, Writes before c other ↔ other = written
  applied : Applied job written before after
  later : Later before after

/-- A count, a draw or a sleep is no write. -/
theorem not_writes (hcall : ∀ kind object, c ≠ some (.updateStatus kind object))
    (written : Resource) : ¬Writes s c written := by
  rintro ⟨kind, object, hc, -⟩
  exact hcall kind object hc

/-- Steps that leave the store alone and are no write are quiet. -/
theorem Quiet.of_same (hsame : h'.store = h.store) (hfits : Fits h'.store job pos')
    (hcall : ∀ kind object, c ≠ some (.updateStatus kind object))
    (hreturns : ∀ conditions, pos'.Returns conditions ↔ pos.Returns conditions)
    (hok : pos'.IsOk → pos.IsOk) : Quiet job pos pos' c h.store h'.store := by
  refine ⟨?_, hfits, not_writes hcall, hreturns, fun hpos => .inl (hok hpos)⟩
  rw [hsame]
  exact .refl _

/-- An update that had not written and ends with an error is quiet. -/
theorem Quiet.failed (e : StoreError) (same : Consulted s s')
    (none : ∀ written, ¬Writes s c written) (first : ∀ conditions, ¬pos.Returns conditions) :
    Quiet job pos (.ended (.error e)) c s s' := by
  refine ⟨same, trivial, none, fun cs => ⟨fun h => ?_, fun h => absurd h (first cs)⟩, fun h => h.elim⟩
  cases h

/-- **A read** is quiet. -/
theorem Quiet.read (hs : h.store.Sound) (attempt left : Nat) :
    Quiet job (.reading attempt left)
      (.ofRead job attempt left (h.store.get job.kind job.key).1) (some (.get job.kind job.key))
      h.store (h.store.get job.kind job.key).2 := by
  obtain ⟨hsame, hfound⟩ := hs.get_cases job.kind job.key
  have hnone (written : Resource) : ¬Writes h.store (some (.get job.kind job.key)) written :=
    not_writes (fun _ _ heq => by cases heq) written
  rcases hfound with ⟨fault, -, hfound⟩ | hfound
  · rw [hfound]
    exact .failed fault hsame hnone fun _ h => h
  · cases hobject : h.store.object? job.kind job.key with
    | none =>
      rw [hfound, hobject]
      exact .failed _ hsame hnone fun _ h => h
    | some object =>
      rw [hfound, hobject]
      have hknown := IsKnown.of_found hs hobject
      simp only [Position.ofRead]
      cases happly : Mutation.applyAll job.mutations object.conditions with
      | error refusal =>
        cases refusal with
        | error e => exact .failed e hsame hnone fun _ h => h
        | beyondCalendar =>
          exact ⟨hsame, trivial, hnone, fun _ => Iff.rfl, fun h => h.elim⟩
      | ok conditions =>
        dsimp only
        split
        · rename_i heq
          refine ⟨hsame, trivial, hnone, fun _ => ⟨fun h => ?_, fun h => h.elim⟩, fun _ => .inr ?_⟩
          · cases h
          · exact ⟨object, hobject, heq ▸ happly⟩
        · exact ⟨hsame, ⟨hknown.later (.of_consulted hs hsame), happly⟩, hnone, fun _ => Iff.rfl,
            fun h => h.elim⟩

/-- **A write** fails and is quiet, or applies the mutations to the status
stored just before it: that one has the version of the state that was
read, so it is that state. -/
theorem write_cases (hs : h.store.Sound) {attempt left : Nat} {read : Resource}
    {conditions : List Condition} (fits : Fits h.store job (.writing attempt left read conditions))
    {object : Resource} (hobject : object = { read with conditions := conditions }) :
    Quiet job (.writing attempt left read conditions)
      (.ofWrite attempt left (h.store.updateStatus job.kind object).1)
      (some (.updateStatus job.kind object)) h.store (h.store.updateStatus job.kind object).2 ∨
    ∃ written, Wrote job (.writing attempt left read conditions)
      (.ofWrite attempt left (h.store.updateStatus job.kind object).1)
      (some (.updateStatus job.kind object)) written h.store
      (h.store.updateStatus job.kind object).2 := by
  obtain ⟨hknown, happly⟩ := fits
  have hkey : object.key = job.key := by rw [hobject]; exact hknown.keyed
  rcases hs.updateStatus_cases job.kind object with
    ⟨e, he, -, hsame⟩ | ⟨stored, hstored, hversion, hwritten, hheld⟩
  · left
    have hnone : ∀ written, ¬Writes h.store (some (.updateStatus job.kind object)) written := by
      rintro written ⟨kind, other, hc, hok⟩
      cases hc
      rw [he] at hok
      cases hok
    rw [he, Position.ofWrite]
    split
    · exact ⟨hsame, trivial, hnone, fun _ => Iff.rfl, fun h => h.elim⟩
    · exact .failed e hsame hnone fun _ h => h
  · right
    rw [hkey] at hstored
    -- the stored version is the one that was read, and one version is one state
    have hread : stored = read := by
      refine hknown.same stored hstored ?_
      rw [← hversion, hobject]
    have hmergedkey : (merged stored object).key = job.key := by rw [hread]; exact hknown.keyed
    have huid := hs.merged_uid hstored object
    have hlater := Later.of_updateStatus hs job.kind object
    refine ⟨(merged stored object).atVersion (h.store.versions + 1), ?_, fun _ h => h, ?_, ?_, hlater⟩
    · rw [hwritten]
      rfl
    · intro other
      constructor
      · rintro ⟨kind, other', hc, hok⟩
        cases hc
        rw [hwritten] at hok
        exact (Except.ok.inj hok).symm
      · rintro rfl
        exact ⟨_, _, rfl, hwritten⟩
    · refine ⟨⟨stored, h.store.versions + 1, hstored, ?_, rfl⟩, ?_, fun hne => ?_⟩
      · rw [hread, happly, Resource.atVersion_conditions, merged, hobject]
      · rw [hheld.object?, ← hmergedkey]
        exact object?_hold_self _ _ _
      · rw [hheld.object?]
        exact object?_hold_of_ne (hmergedkey ▸ hne)

/-- **Every step of an update** is quiet, or writes what the mutations make
of the status stored just before. -/
theorem Moves.outcome (hs : h.store.Sound) (fits : Fits h.store job pos)
    (moves : Moves job pos h c pos' h') :
    Quiet job pos pos' c h.store h'.store ∨
      ∃ written, Wrote job pos pos' c written h.store h'.store := by
  cases moves with
  | read attempt left => exact .inl (Quiet.read hs attempt left)
  | write attempt left read conditions => exact write_cases hs fits rfl
  | counted written same =>
    refine .inl (.of_same same trivial (fun _ _ => nofun) (fun cs => ?_) fun _ => trivial)
    constructor
    · intro h
      exact congrArg UpdateResult.conditions (Except.ok.inj h)
    · rintro rfl
      rfl
  | countedLoss attempt left same =>
    cases left with
    | zero =>
      exact .inl (.failed _ (same ▸ .refl _) (not_writes fun _ _ => nofun) fun _ h => h)
    | succ left =>
      exact .inl (.of_same same trivial (fun _ _ => nofun) (fun _ => Iff.rfl) fun h => h.elim)
  | drew attempt left drawn =>
    exact .inl (.of_same rfl trivial (fun _ _ => nofun) (fun _ => Iff.rfl) fun h => h.elim)
  | slept attempt left drawn same =>
    exact .inl (.of_same same trivial (fun _ _ => nofun) (fun _ => Iff.rfl) fun h => h.elim)
  | cut attempt left drawn same =>
    exact .inl (.of_same same trivial (fun _ _ => nofun) (fun _ => Iff.rfl) fun h => h.elim)
  | countedLate same =>
    exact .inl (.failed _ (same ▸ .refl _) (not_writes fun _ _ => nofun) fun _ h => h)

end StatusUpdate

end ClusterFleet
