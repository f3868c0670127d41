import ClusterFleet.Proofs.Sync.Course

/-!
# Sync — what a failure leaves behind

An update or a reconciliation that fails has written nothing, whichever
faults it met and wherever it was cut off; one that does not fail has written
what it says. What a failed reconciliation can leave behind is the cache
rebuilt for the members that it listed, with the churn told: nothing if it
failed before (`failures_leave_no_trace`).
-/

namespace ClusterFleet

open MemoryStore StatusUpdate Program

/-- Whether a reconciliation says that it has written the status. -/
def SyncOutcome.wrote : SyncOutcome → Bool
  | .reconciled _ _ updated => updated
  | _ => false

/-- Whether a reconciliation ended with the word that it has written. -/
def syncReports : Hub.Ending (Except StoreError SyncOutcome) → Bool
  | .result (.ok outcome) => outcome.wrote
  | _ => false

/-- What the update says is passed on. -/
theorem syncReports_passOn (n : ℕ) (churn : Churn)
    (result : Hub.Ending (Except StoreError UpdateResult)) :
    syncReports (passOn n churn result) = reports result := by
  match result with
  | .result (.ok _) => rfl
  | .result (.error _) => rfl
  | .aborted => rfl
  | .stuck => rfl

namespace SyncCourse

variable {prune : Bool} {policy : RetryPolicy} {deadline : Option Moment} {key : Key}
variable {before after : MemoryStore} {cache cache' : Membership} {reading : Instant}
variable {told : List Event} {listed : Bool} {ending : Hub.Ending (Except StoreError SyncOutcome)}

/-- **A reconciliation wrote what it says**: only its update writes. -/
theorem writtenIf (hs : before.Sound)
    (course : SyncCourse prune policy deadline key before after cache cache' reading told listed
      ending) :
    WrittenIf .set key before after (syncReports ending) := by
  cases course with
  | misplaced namespaced same kept =>
    rw [same]
    exact Unwritten.refl _
  | unread faults read kept =>
    rw [read]
    exact ⟨.readFault faults _ _ _, rfl⟩
  | missing gone read kept =>
    rw [read]
    exact Unwritten.observe _ _ _ _
  | deleting found marked read kept =>
    rw [read]
    exact Unwritten.observe _ _ _ _
  | @published set churn mid mid' calls result found live rebuilt surveyed update stored =>
    have hsame : Unwritten before mid.store := surveyed ▸ unwritten_surveyed key before
    have hwritten := ofJob_writtenIf (hsame.consulted.sound hs) update
    rw [syncReports_passOn, stored]
    exact hwritten.before hsame

/-- **Only a listing changes the cache**, and only it has something told. -/
theorem kept
    (course : SyncCourse prune policy deadline key before after cache cache' reading told false
      ending) :
    cache' = cache ∧ told = [] := by
  cases course with
  | misplaced namespaced same kept => exact ⟨kept, rfl⟩
  | unread faults read kept => exact ⟨kept, rfl⟩
  | missing gone read kept => exact ⟨kept, rfl⟩
  | deleting found marked read kept => exact ⟨kept, rfl⟩

/-- After a listing the cache is what a rebuild makes of it. -/
theorem rebuilt
    (course : SyncCourse prune policy deadline key before after cache cache' reading told true
      ending) :
    ∃ set churn, before.object? .set key = some set ∧ set.isDeleting = false ∧
      cache.rebuild set.name (before.selected set) prune = (churn, cache') ∧
      told = ClusterSet.churnEvents set.name churn prune := by
  cases course with
  | published found live rebuilt surveyed update stored => exact ⟨_, _, found, live, rebuilt, rfl⟩

end SyncCourse

/-- **Failures leave no trace in the store.** An update that fails has
written nothing, and one that succeeds has written one object if it says so,
and otherwise nothing. So has a reconciliation. If it fails before it has
listed the members, cache and events are as they were; if it fails later, the
cache is what a rebuild for the members listed makes of it, and its churn has
been told. -/
theorem failures_leave_no_trace {h : Hub MemoryStore} (sound : h.store.Sound) :
    (∀ {job : UpdateJob} {calls ending h'}, Runs (ofJob job) h calls ending h' →
      (∀ e, ending = .result (.error e) → Unwritten h.store h'.store) ∧
      ∀ result, ending = .result (.ok result) →
        WrittenIf job.kind job.key h.store h'.store result.updated) ∧
    ∀ {prune policy deadline key calls ending h'},
      Runs (ClusterSet.reconcile prune policy deadline key) h calls ending h' →
      (∀ e, ending = .result (.error e) → Unwritten h.store h'.store ∧
        (listsMembers calls = false → h'.cache = h.cache ∧ h'.events = h.events) ∧
        (listsMembers calls = true → ∃ set churn,
          h.store.object? .set key = some set ∧ set.isDeleting = false ∧
          h.cache.rebuild set.name (h.store.selected set) prune = (churn, h'.cache) ∧
          h'.events = h.events ++ ClusterSet.churnEvents set.name churn prune)) ∧
      ∀ outcome, ending = .result (.ok outcome) →
        WrittenIf .set key h.store h'.store outcome.wrote := by
  constructor
  · intro job calls ending h' run
    have hwritten := ofJob_writtenIf sound run
    refine ⟨fun e hending => ?_, fun result hending => ?_⟩
    · rw [hending] at hwritten
      exact hwritten
    · rw [hending] at hwritten
      exact hwritten
  · intro prune policy deadline key calls ending h' run
    obtain ⟨told, hevents, course⟩ := reconcile_course sound run
    have hwritten := course.writtenIf sound
    -- whether the members were listed tells which part of the course was run
    refine ⟨fun e hending => ?_, fun outcome hending => ?_⟩
    · rw [hending] at hwritten
      refine ⟨hwritten, fun hlists => ?_, fun hlists => ?_⟩
      · rw [hlists] at course
        obtain ⟨hcache, htold⟩ := course.kept
        rw [hevents, htold, List.append_nil]
        exact ⟨hcache, rfl⟩
      · rw [hlists] at course
        obtain ⟨set, churn, found, live, rebuilt, rfl⟩ := course.rebuilt
        exact ⟨set, churn, found, live, rebuilt, hevents⟩
    · rw [hending] at hwritten
      exact hwritten

/-- The error that a program ended with, if it did. -/
def Hub.Ending.failure? {α : Type} : Hub.Ending (Except StoreError α) → Option StoreError
  | .result (.error e) => some e
  | _ => none

theorem Hub.Ending.eq_of_failure? {α : Type} {ending : Hub.Ending (Except StoreError α)}
    {e : StoreError} (h : ending.failure? = some e) : ending = .result (.error e) := by
  match ending, h with
  | .result (.error _), rfl => rfl

/-- A set whose status cannot be written: the store is as it was, and the
cache has the member that was listed and no other. -/
theorem failures_leave_no_trace_unreachable :
    let h := lagging (staffed.plantWriteFault (.transient "unreachable"))
    ∃ calls h', Runs (ClusterSet.reconcile true .standard none (.cluster "a")) h calls
        (.result (.error (.transient "unreachable"))) h' ∧
      Unwritten h.store h'.store ∧ h'.cache.entries = [("m", "a")] := by
  intro h
  let program := ClusterSet.reconcile true .standard none (.cluster "a")
  have hsound : h.store.Sound := ⟨sound_staffed.written, sound_staffed.nodup⟩
  have hending : (Hub.runAlone program h).1 = .result (.error (.transient "unreachable")) :=
    Hub.Ending.eq_of_failure? (by decide +kernel)
  obtain ⟨calls, run⟩ := Runs.of_runAlone program h
  obtain ⟨hfailed, -⟩ := (failures_leave_no_trace hsound).2 run
  obtain ⟨hunwritten, -⟩ := hfailed _ hending
  rw [hending] at run
  exact ⟨calls, _, run, hunwritten, by decide +kernel⟩

end ClusterFleet
