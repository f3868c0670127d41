import ClusterFleet.Proofs.Hub.Frame
import ClusterFleet.Proofs.Queue.Pending
import ClusterFleet.Proofs.Update.Outcome

/-!
# Status updates — an update alone

An update that nobody interferes with. It leaves the cache alone, and the
queue to the passing of time (`run_aside`). What it does to the store is
told by how it ends (`run_ends`): it has applied its mutations, or found
nothing to write, or written nothing at all.
-/

namespace ClusterFleet

open MemoryStore

namespace StatusUpdate

open Program Position

/-- The calls of an update. -/
inductive IsCall : Call → Prop
  | get (kind : Kind) (key : Key) : IsCall (.get kind key)
  | updateStatus (kind : Kind) (object : Resource) : IsCall (.updateStatus kind object)
  | count (counter : Counter) : IsCall (.count counter)
  | draw (bound : Float) : IsCall (.draw bound)

variable {job : UpdateJob}

theorem uses_ofRead {attempt left : Nat} (hloss : (afterLoss job attempt left).Uses IsCall)
    (found : Except StoreError (Option Resource)) :
    ((ofRead job attempt left found).program job).Uses IsCall := by
  have hwrite (written : Except StoreError Resource) :
      (afterWrite job attempt left written).Uses IsCall := by
    unfold afterWrite
    split
    · exact ⟨.count _, fun _ => trivial⟩
    · split
      · exact ⟨.count _, fun _ => hloss⟩
      · trivial
  unfold ofRead
  split
  · trivial
  · trivial
  · split
    · trivial
    · trivial
    · split
      · trivial
      · exact ⟨.updateStatus _ _, hwrite⟩

/-- **An update** reads, writes, counts and draws, and nothing else. -/
theorem uses_attemptsFrom (job : UpdateJob) (attempt left : Nat) :
    (attemptsFrom job attempt left).Uses IsCall := by
  induction left generalizing attempt with
  | zero =>
    rw [attemptsFrom_eq]
    exact ⟨.get _ _, uses_ofRead trivial⟩
  | succ left ih =>
    rw [attemptsFrom_eq]
    refine ⟨.get _ _, uses_ofRead ⟨.draw _, fun drawn slept => ?_⟩⟩
    cases slept with
    | true => exact ih (attempt + 1)
    | false => exact ⟨.count _, fun _ => trivial⟩

variable {h h' : Hub MemoryStore} {calls : List Call}
variable {ending : Hub.Ending (Except StoreError UpdateResult)}

/-- **An update leaves the cache alone**, and the queue to the passing of
time. -/
theorem run_aside (hs : h.queue.Sound) (hopen : h.queue.closed = false)
    (run : Runs (ofJob job) h calls ending h') :
    (h.Grows h' ∧ h'.cache = h.cache) ∧ (∀ c ∈ calls, IsCall c) ∧ ending ≠ .stuck := by
  let related (h h' : Hub MemoryStore) : Prop := h.Grows h' ∧ h'.cache = h.cache
  have hrefl : related h h := ⟨.refl hs hopen, rfl⟩
  refine Runs.frame hrefl ?_ ?_ (uses_attemptsFrom job 1 _) run
  · rintro c a k k' hc answers ⟨hgrows, hcache⟩
    have hsame : k'.queue = k.queue ∧ k'.delayed = k.delayed ∧ k'.cache = k.cache := by
      cases answers with
      | usual => cases hc <;> exact ⟨rfl, rfl, rfl⟩
      | drawn => exact ⟨rfl, rfl, rfl⟩
      | shown => exact ⟨rfl, rfl, rfl⟩
    obtain ⟨hqueue, hdelayed, hkeep⟩ := hsame
    exact ⟨hgrows.trans (.of_same hgrows.sound hgrows.closed hqueue hdelayed), hkeep.trans hcache⟩
  · rintro k k' passes ⟨hgrows, hcache⟩
    exact ⟨hgrows.trans (.passes hgrows.sound hgrows.closed passes), passes.aside.2.trans hcache⟩

/-! ## How it ends -/

/-- Why an update fails that nobody interferes with. -/
inductive Cause (s : MemoryStore) (job : UpdateJob) (e : StoreError) : Prop
  /-- A fault was planted, and if the fault may mend then so may the error. -/
  | planted {fault : StoreError} (h : fault ∈ s.readFaults ∨ fault ∈ s.writeFaults)
      (mends : fault.isRetryable = true → e.isRetryable = true)
  | gone (h : s.object? job.kind job.key = none) (eq : e = .notFound job.kind job.key)
  /-- A mutation refuses. -/
  | refused {stored : Resource} (h : s.object? job.kind job.key = some stored)
      (refuses : Mutation.applyAll job.mutations stored.conditions = .error (.error e))

/-- What an update has done to the store, by how it ended. -/
inductive UpdateEnds (job : UpdateJob) (before after : MemoryStore) :
    Hub.Ending (Except StoreError UpdateResult) → Prop
  /-- There was nothing to write. -/
  | kept (conditions : List Condition) (same : Consulted before after)
      (leaves : LeavesStored before job) :
      UpdateEnds job before after (.result (.ok ⟨conditions, false⟩))
  | written (written : Resource) (applied : Applied job written before after)
      (later : Later before after) (readFaults : after.readFaults <:+ before.readFaults)
      (writeFaults : after.writeFaults <:+ before.writeFaults) :
      UpdateEnds job before after (.result (.ok ⟨written.conditions, true⟩))
  /-- It failed, and nothing was written. -/
  | failed (e : StoreError) (same : Consulted before after) (cause : Cause before job e) :
      UpdateEnds job before after (.result (.error e))
  /-- It was broken off, since a time would lie beyond the calendar. -/
  | aborted {stored : Resource} (same : Consulted before after)
      (found : before.object? job.kind job.key = some stored)
      (refuses : Mutation.applyAll job.mutations stored.conditions = .error .beyondCalendar) :
      UpdateEnds job before after .aborted

/-- What is true of an update alone at each position. -/
def Stands (job : UpdateJob) (before s : MemoryStore) : Position → Prop
  | .reading _ _ => Consulted before s
  | .writing _ _ read conditions => Consulted before s ∧
      before.object? job.kind job.key = some read ∧
      Mutation.applyAll job.mutations read.conditions = .ok conditions
  | .wrote written => UpdateEnds job before s (.result (.ok ⟨written.conditions, true⟩))
  | .ended result => UpdateEnds job before s (.result result)
  | .broken => UpdateEnds job before s .aborted
  | _ => Consulted before s ∧ ∃ fault, fault ∈ before.writeFaults

theorem isRetryable_faultFor (kind : Kind) (key : Key) (fault : StoreError) :
    (faultFor kind key fault).isRetryable = fault.isRetryable := by
  cases fault <;> rfl

variable {before : MemoryStore} {pos pos' : Position} {c : Option Call}

theorem Stands.read (hs : before.Sound) (same : Consulted before h.store) (attempt left : Nat) :
    Stands job before (h.store.get job.kind job.key).2
      (.ofRead job attempt left (h.store.get job.kind job.key).1) := by
  obtain ⟨hsame, hfound⟩ := (same.sound hs).get_cases job.kind job.key
  have hthen := same.trans hsame
  rcases hfound with ⟨fault, hfault, hfound⟩ | hfound
  · rw [hfound]
    exact .failed fault hthen (.planted (.inl (same.readFaults.subset hfault)) id)
  · rw [hfound, same.object?]
    cases hobject : before.object? job.kind job.key with
    | none => exact .failed _ hthen (.gone hobject rfl)
    | some object =>
      simp only [ofRead]
      cases happly : Mutation.applyAll job.mutations object.conditions with
      | error refusal =>
        cases refusal with
        | error e => exact .failed e hthen (.refused hobject happly)
        | beyondCalendar => exact .aborted hthen hobject happly
      | ok conditions =>
        dsimp only
        split
        · rename_i heq
          exact .kept conditions hthen ⟨object, hobject, heq ▸ happly⟩
        · exact ⟨hthen, hobject, happly⟩

theorem Stands.write (hs : before.Sound) {read : Resource} {conditions : List Condition}
    (same : Consulted before h.store) (found : before.object? job.kind job.key = some read)
    (applies : Mutation.applyAll job.mutations read.conditions = .ok conditions)
    {object : Resource} (hobject : object = { read with conditions := conditions })
    (attempt left : Nat) :
    Stands job before (h.store.updateStatus job.kind object).2
      (.ofWrite attempt left (h.store.updateStatus job.kind object).1) := by
  have hsound := same.sound hs
  have hkey : object.key = job.key := by rw [hobject]; exact (hs.found found).1
  have hstored : h.store.object? job.kind object.key = some read := by
    rw [hkey, same.object?, found]
  rcases hsound.updateStatus_cases job.kind object with
    ⟨e, he, hwhy, hsame⟩ | ⟨stored, hfound, hversion, hwritten, hheld⟩
  · have hthen := same.trans hsame
    rw [he, ofWrite]
    -- nobody else writes, so the object is there and at the version that was read
    cases hwhy with
    | @planted fault hfault =>
      have hplanted : fault ∈ before.writeFaults := same.writeFaults.subset hfault
      split
      · exact ⟨hthen, fault, hplanted⟩
      · exact .failed _ hthen (.planted (.inr hplanted) fun h => by rwa [isRetryable_faultFor])
    | gone hgone =>
      rw [hstored] at hgone
      cases hgone
    | stale hstale hne =>
      rw [hstored] at hstale
      obtain rfl := Option.some.inj hstale
      rw [hobject] at hne
      exact absurd rfl hne
  · rw [hstored] at hfound
    obtain rfl := Option.some.inj hfound
    have huid := hsound.merged_uid hstored object
    have hlater : Later before (h.store.updateStatus job.kind object).2 :=
      (Later.of_consulted hs same).trans (.of_updateStatus hsound job.kind object)
    have hkeys : (merged read object).key = job.key := (hs.found found).1
    rw [hwritten, ofWrite]
    refine .written _ ⟨⟨read, h.store.versions + 1, found, ?_, rfl⟩, ?_, fun hne => ?_⟩ hlater
      (hheld.readFaults.trans same.readFaults) (hheld.writeFaults.trans same.writeFaults)
    · rw [applies, Resource.atVersion_conditions, merged, hobject]
    · rw [hheld.object?, ← hkeys]
      exact object?_hold_self _ _ _
    · rw [hheld.object?, object?_hold_of_ne (hkeys ▸ hne), same.object?]

/-- **A step keeps it.** -/
theorem Stands.step (hs : before.Sound) (stands : Stands job before h.store pos)
    (moves : Moves job pos h c pos' h') : Stands job before h'.store pos' := by
  cases moves with
  | read attempt left => exact .read hs stands attempt left
  | write attempt left read conditions =>
    exact .write hs stands.1 stands.2.1 stands.2.2 rfl attempt left
  | counted written same =>
    rw [same]
    exact stands
  | countedLoss attempt left same =>
    obtain ⟨hthen, fault, hfault⟩ := stands
    rw [same]
    cases left with
    | zero => exact .failed _ hthen (.planted (.inr hfault) fun _ => rfl)
    | succ left => exact ⟨hthen, fault, hfault⟩
  | drew attempt left drawn => exact stands
  | slept attempt left drawn same =>
    rw [same]
    exact stands.1
  | cut attempt left drawn same =>
    rw [same]
    exact stands
  | countedLate same =>
    obtain ⟨hthen, fault, hfault⟩ := stands
    rw [same]
    exact .failed _ hthen (.planted (.inr hfault) fun _ => rfl)

theorem Stands.run (hs : before.Sound) (stands : Stands job before h.store pos)
    (run : Runs (pos.program job) h calls ending h') : UpdateEnds job before h'.store ending := by
  generalize hp : pos.program job = p at run
  induction run generalizing pos with
  | done result h =>
    obtain rfl := eq_ended hp
    exact stands
  | abort h =>
    obtain rfl := eq_broken hp
    exact stands
  | stuck pop => exact absurd hp (program_ne_take _)
  | step step rest ih =>
    subst hp
    obtain ⟨pos', hpos', moves⟩ := Moves.of_step step
    exact ih (stands.step hs moves) hpos'.symm

/-- **What an update alone does to the store.** -/
theorem run_ends (hs : h.store.Sound) (run : Runs (ofJob job) h calls ending h') :
    UpdateEnds job h.store h'.store ending := by
  have stands : Stands job h.store h.store (.reading 1 (job.policy.attempts - 1)) :=
    Consulted.refl h.store
  exact stands.run hs run

end StatusUpdate

end ClusterFleet
