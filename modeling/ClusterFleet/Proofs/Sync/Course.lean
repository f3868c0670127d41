import ClusterFleet.Proofs.Sync.Release
import ClusterFleet.Proofs.Update.Attempt

/-!
# Sync — the course of a reconciliation

How far a reconciliation comes that nobody interferes with, and all that it
has done by then (`SyncCourse`). Either it ends after at most one read of
its set, or it lists the members, rebuilds the cache for them, tells the
churn, and leaves the rest to the update that publishes the status: that one
is part of the course, so whatever is known of updates carries over
(`reconcile_course`).
-/

namespace ClusterFleet

open MemoryStore StatusUpdate Program

/-- Whether the members were listed among some calls. -/
def listsMembers (calls : List Call) : Bool :=
  calls.any fun
    | .list .member => true
    | _ => false

theorem listsMembers_append (calls later : List Call) :
    listsMembers (calls ++ later) = (listsMembers calls || listsMembers later) := List.any_append

/-- The store after a read of a set and of all members. -/
def MemoryStore.surveyed (key : Key) (s : MemoryStore) : MemoryStore :=
  (s.observe .get .set (some key)).observe .list .member none

theorem unwritten_surveyed (key : Key) (s : MemoryStore) : Unwritten s (s.surveyed key) :=
  (Unwritten.observe .get .set (some key) s).trans (.observe .list .member none _)

/-- What a reconciliation ends in, by what its update ended in. -/
def passOn (n : ℕ) (churn : Churn) :
    Hub.Ending (Except StoreError UpdateResult) → Hub.Ending (Except StoreError SyncOutcome)
  | .result (.ok result) => .result (.ok (.reconciled n churn result.updated))
  | .result (.error e) => .result (.error e)
  | .aborted => .aborted
  | .stuck => .stuck

/-- **The course of a reconciliation**: what it did to store and cache, what
it told and whether it listed the members, by how it ended. The reading is what
the calendar showed, if it was looked at. -/
inductive SyncCourse (prune : Bool) (policy : RetryPolicy) (deadline : Option Moment) (key : Key)
    (before after : MemoryStore) (cache cache' : Membership) (reading : Instant) :
    List Event → Bool → Hub.Ending (Except StoreError SyncOutcome) → Prop
  /-- The key has a namespace, so it is none of a set. -/
  | misplaced (namespaced : key.ns.isSome = true) (same : after = before) (kept : cache' = cache) :
      SyncCourse prune policy deadline key before after cache cache' reading [] false
        (.result (.error
          (.precondition ("ManagedClusterSet is cluster-scoped; got key " ++ key.display))))
  /-- The read of the set met a planted fault. -/
  | unread {fault : StoreError} {later : List StoreError}
      (faults : before.readFaults = fault :: later)
      (read : after = { before.observe .get .set (some key) with readFaults := later })
      (kept : cache' = cache) :
      SyncCourse prune policy deadline key before after cache cache' reading [] false
        (.result (.error fault))
  | missing (gone : before.object? .set key = none)
      (read : after = before.observe .get .set (some key)) (kept : cache' = cache) :
      SyncCourse prune policy deadline key before after cache cache' reading [] false
        (.result (.ok .missing))
  | deleting {set : Resource} (found : before.object? .set key = some set)
      (marked : set.isDeleting = true) (read : after = before.observe .get .set (some key))
      (kept : cache' = cache) :
      SyncCourse prune policy deadline key before after cache cache' reading [] false
        (.result (.ok .deleting))
  /-- The members were listed, and the update was left to publish how many
  there are. -/
  | published {set : Resource} {churn : Churn} {mid mid' : Hub MemoryStore}
      {calls : List Call} {result : Hub.Ending (Except StoreError UpdateResult)}
      (found : before.object? .set key = some set) (live : set.isDeleting = false)
      (rebuilt : cache.rebuild set.name (before.selected set) prune = (churn, cache'))
      (surveyed : mid.store = before.surveyed key)
      (update : Runs
        (ofJob (publishing key (before.labelled set.name).length reading policy deadline))
        mid calls result mid')
      (stored : after = mid'.store) :
      SyncCourse prune policy deadline key before after cache cache' reading
        (ClusterSet.churnEvents set.name churn prune) true
        (passOn (before.labelled set.name).length churn result)

section Run

variable {h h' : Hub MemoryStore} {key : Key} {set : Resource} {n : ℕ} {prune : Bool}
variable {policy : RetryPolicy} {deadline : Option Moment} {calls : List Call} {churn : Churn}
variable {ending : Hub.Ending (Except StoreError SyncOutcome)}

/-- Publishing passes on what its update ended in. -/
theorem publishThen_course {now : Instant}
    (run : Runs (publishThen key n now policy deadline churn) h calls ending h') :
    ∃ calls' result, ending = passOn n churn result ∧
      Runs (ofJob (publishing key n now policy deadline)) h calls' result h' := by
  cases run.of_bind with
  | aborted update => exact ⟨_, _, rfl, update⟩
  | stuck update => exact ⟨_, _, rfl, update⟩
  | @both result _ _ _ _ _ update rest =>
    cases result with
    | ok result =>
      obtain ⟨-, rfl, rfl⟩ := rest.of_done
      exact ⟨_, _, rfl, update⟩
    | error e =>
      obtain ⟨-, rfl, rfl⟩ := rest.of_done
      exact ⟨_, _, rfl, update⟩

/-- After the rebuild of the cache the churn is told, and the update runs. -/
theorem afterRebuild_course
    (run : Runs (afterRebuild prune policy deadline key set n churn) h calls ending h') :
    (h'.cache = h.cache ∧ h'.events = h.events ++ ClusterSet.churnEvents set.name churn prune) ∧
      ∃ mid calls' result, mid.store = h.store ∧ ending = passOn n churn result ∧
        Runs (ofJob (publishing key n h'.calendar policy deadline)) mid calls' result h' := by
  obtain ⟨now, later, -, run⟩ := run.of_afterRebuild
  let mid : Hub MemoryStore :=
    { h with
      events := h.events ++ ClusterSet.churnEvents set.name churn prune
      calendar := now }
  obtain ⟨calls', result, hending, update⟩ := publishThen_course run
  have hleaves := leaves_ofJob update
  have hcalendar : h'.calendar = now := hleaves.calendar
  rw [hcalendar]
  exact ⟨⟨hleaves.cache, hleaves.events⟩, mid, calls', result, rfl, hending, update⟩

/-- **A live set**: its members are listed, and the cache is rebuilt for
them. -/
theorem listThen_course {before : MemoryStore} (hs : before.Sound)
    (reads : before.readFaults = []) (read : h.store = before.observe .get .set (some key))
    (found : before.object? .set key = some set) (live : set.isDeleting = false)
    (run : Runs (listThen prune policy deadline key set) h calls ending h') :
    ∃ told, h'.events = h.events ++ told ∧
      SyncCourse prune policy deadline key before h'.store h.cache h'.cache h'.calendar told
        (listsMembers calls) ending := by
  have hseen : Consulted before h.store := read ▸ .observe _ _ _ _
  have hlist : h.store.list .member = (.ok (Key.sortBy Resource.key (before.objects .member)),
      before.surveyed key) := by
    have hnone : h.store.readFaults = [] := read ▸ reads
    rw [(hseen.sound hs).list_of_no_fault hnone, hseen.objects, read]
    rfl
  obtain ⟨later, rfl, answered⟩ := run.of_decided trivial
  change Runs (match (h.store.list .member).1 with
    | .error e => done (.error e)
    | .ok members => ClusterSet.refresh prune policy deadline key set members)
    { h with store := (h.store.list .member).2 } later ending h' at answered
  rw [hlist] at answered
  obtain ⟨later, rfl, rest⟩ := answered.of_decided trivial
  let rebuilt := h.cache.rebuild set.name (before.selected set) prune
  change Runs (afterRebuild prune policy deadline key set (before.selected set).length rebuilt.1)
    { h with store := before.surveyed key, cache := rebuilt.2 } later ending h' at rest
  rw [length_selected] at rest
  obtain ⟨⟨hcache, hevents⟩, mid, calls', result, hstore, rfl, update⟩ := afterRebuild_course rest
  exact ⟨_, hevents, .published found live (Prod.ext rfl hcache.symm) hstore update rfl⟩

/-- **Bringing the set of a key up to date.** -/
theorem bringUpToDate_course (hs : h.store.Sound)
    (run : Runs (ClusterSet.bringUpToDate prune policy deadline key) h calls ending h') :
    ∃ told, h'.events = h.events ++ told ∧
      SyncCourse prune policy deadline key h.store h'.store h.cache h'.cache h'.calendar told
        (listsMembers calls) ending := by
  have hnothing (hub : Hub MemoryStore) : hub.events = hub.events ++ [] := (List.append_nil _).symm
  -- in the order of the checks, each of which is one way to end
  cases hns : key.ns with
  | some ns =>
    have hnamespaced : key.ns.isSome = true := by rw [hns]; rfl
    rw [ClusterSet.bringUpToDate, if_pos hnamespaced] at run
    obtain ⟨rfl, rfl, rfl⟩ := run.of_done
    exact ⟨[], hnothing _, .misplaced hnamespaced rfl rfl⟩
  | none =>
    rw [bringUpToDate_eq hns] at run
    obtain ⟨later, rfl, rest⟩ := run.of_decided trivial
    change Runs (afterLookup prune policy deadline key (h.store.get .set key).1)
      { h with store := (h.store.get .set key).2 } later ending h' at rest
    cases hfaults : h.store.readFaults with
    | cons fault others =>
      rw [get_of_fault hfaults] at rest
      obtain ⟨rfl, rfl, rfl⟩ := rest.of_done
      exact ⟨[], hnothing _, .unread hfaults rfl rfl⟩
    | nil =>
      rw [hs.get_eq hfaults] at rest
      cases hobject : h.store.object? .set key with
      | none =>
        rw [hobject] at rest
        obtain ⟨rfl, rfl, rfl⟩ := rest.of_done
        exact ⟨[], hnothing _, .missing hobject rfl rfl⟩
      | some set =>
        rw [hobject, afterLookup] at rest
        split at rest
        · rename_i hmarked
          obtain ⟨rfl, rfl, rfl⟩ := rest.of_done
          exact ⟨[], hnothing _, .deleting hobject hmarked rfl rfl⟩
        · rename_i hlive
          rw [Bool.not_eq_true] at hlive
          have hcourse := listThen_course hs hfaults rfl hobject hlive rest
          exact hcourse

/-- **Reconciling the set of a key.** -/
theorem reconcile_course (hs : h.store.Sound)
    (run : Runs (ClusterSet.reconcile prune policy deadline key) h calls ending h') :
    ∃ told, h'.events = h.events ++ told ∧
      SyncCourse prune policy deadline key h.store h'.store h.cache h'.cache h'.calendar told
        (listsMembers calls) ending := by
  obtain ⟨later, rfl, counted⟩ := run.of_decided trivial
  have hsound : (h.answer (.count .syncs)).2.store.Sound := hs
  cases counted.of_bind with
  | aborted sync =>
    have hcourse := bringUpToDate_course hsound sync
    exact hcourse
  | stuck sync =>
    have hcourse := bringUpToDate_course hsound sync
    exact hcourse
  | @both result first later mid _ _ sync rest =>
    have hcourse := bringUpToDate_course hsound sync
    obtain ⟨last, rfl, timed⟩ := rest.of_decided trivial
    -- what follows only counts, and passes the result on
    have hcounts : listsMembers (first ++ .count .syncLatency :: last) = listsMembers first ∧
        ending = .result result ∧ ∃ counts, h' = { mid with counts := counts } := by
      cases result with
      | ok outcome =>
        obtain ⟨rfl, rfl, rfl⟩ := timed.of_done
        have hquiet : listsMembers [.count .syncLatency] = false := rfl
        exact ⟨by simp [listsMembers_append, hquiet], rfl, _, rfl⟩
      | error e =>
        obtain ⟨_, rfl, failed⟩ := timed.of_decided trivial
        obtain ⟨rfl, rfl, rfl⟩ := failed.of_done
        have hquiet : listsMembers [.count .syncLatency, .count .syncErrors] = false := rfl
        exact ⟨by simp [listsMembers_append, hquiet], rfl, _, rfl⟩
    obtain ⟨hlists, rfl, counts, rfl⟩ := hcounts
    change ∃ told, _ ∧ SyncCourse prune policy deadline key _ _ _ _ _ told
      (listsMembers (first ++ .count .syncLatency :: last)) _
    rw [hlists]
    exact hcourse

end Run

/-! ## A set with one member -/

/-- A store with a set and a member of it. -/
def staffed : MemoryStore :=
  let set : Resource := ⟨⟨"a", none, none, none, [], none⟩, []⟩
  let member : Resource := ⟨⟨"m", none, none, none, [(Resource.setLabel, "a")], none⟩, []⟩
  ((MemoryStore.empty.put .set set).2.put .member member).2

theorem sound_staffed : staffed.Sound := (sound_empty.put .set _).put .member _

/-- A hub that still has another member in the set. -/
def lagging (store : MemoryStore) : Hub MemoryStore :=
  { Hub.start store 1 Instant.epoch with cache := Membership.empty.insert "n" "a" }

end ClusterFleet
