import ClusterFleet.Hub.ClusterSet
import ClusterFleet.Proofs.Hub.Membership
import ClusterFleet.Proofs.Update.Alone

/-!
# Sync — what reconciling a set does

A reconciliation that nobody interferes with, by how it ends
(`SyncEnds`): it finds nothing to do, or it fails, or it points the
selected members at the set in the cache and then publishes how many they
are. The cache is rebuilt before the status is written, so a failure may
leave a cache that was rebuilt and a status that was not.
-/

namespace ClusterFleet

open MemoryStore

/-! ## Who belongs to a set -/

/-- The stored members whose label names a set. -/
def MemoryStore.labelled (s : MemoryStore) (set : String) : List Resource :=
  (s.objects .member).filter fun member => member.clusterSet? = some set

/-- The status says how many members a set has: its condition is that of a
set with so many members, whatever its time. -/
def Tells (n : Nat) (set : Resource) : Prop :=
  (ClusterSet.emptyCondition n Instant.epoch).Shows set.conditions

instance (n : Nat) (set : Resource) : Decidable (Tells n set) :=
  inferInstanceAs (Decidable (Condition.Shows _ _))

/-- **The status of a set without members**, word for word. -/
theorem tells_zero_iff {set : Resource} : Tells 0 set ↔
    ∃ c, Condition.find? "Empty" set.conditions = some c ∧ c.status.text = "True" ∧
      c.reason = "NoClusterMatched" ∧ c.message = "No ManagedCluster selected" := by
  rw [Tells, ClusterSet.emptyCondition_zero]
  exact exists_congr fun _ => and_congr_right fun _ => and_congr_left fun _ =>
    (ConditionStatus.text_inj (b := .holds)).symm

/-- **The status of a set with members**, word for word. -/
theorem tells_pos_iff {n : Nat} {set : Resource} (h : 0 < n) : Tells n set ↔
    ∃ c, Condition.find? "Empty" set.conditions = some c ∧ c.status.text = "False" ∧
      c.reason = "ClustersSelected" ∧
      c.message = Decimal.text n ++ " ManagedClusters selected" := by
  rw [Tells, ClusterSet.emptyCondition_pos h]
  exact exists_congr fun _ => and_congr_right fun _ => and_congr_left fun _ =>
    (ConditionStatus.text_inj (b := .fails)).symm

/-- What a condition says does not depend on its time. -/
theorem tells_of_shows {n : Nat} {now : Instant} {set : Resource}
    (h : (ClusterSet.emptyCondition n now).Shows set.conditions) : Tells n set := by
  obtain ⟨c, hfind, hsame⟩ := h
  refine ⟨c, ?_, ?_⟩
  · rw [← hfind]
    unfold ClusterSet.emptyCondition
    split <;> rfl
  · unfold ClusterSet.emptyCondition at hsame ⊢
    split <;> rename_i hn
    · rwa [if_pos hn] at hsame
    · rwa [if_neg hn] at hsame

/-- The members that a set selects, as a reconciliation lists them. -/
def MemoryStore.selected (s : MemoryStore) (set : Resource) : List String :=
  ClusterSet.selection set (Key.sortBy Resource.key (s.objects .member))

theorem length_selected (s : MemoryStore) (set : Resource) :
    (s.selected set).length = (s.labelled set.name).length := by
  rw [MemoryStore.selected, ClusterSet.selection, List.length_map]
  exact ((perm_sortBy _ _).filter _).length_eq

theorem mem_selected {s : MemoryStore} {set : Resource} {name : String} :
    name ∈ s.selected set ↔ ∃ member ∈ s.labelled set.name, member.name = name := by
  rw [MemoryStore.selected, ClusterSet.selection, List.mem_map]
  constructor
  · rintro ⟨member, hmem, hname⟩
    exact ⟨member, ((perm_sortBy _ _).filter _).mem_iff.mp hmem, hname⟩
  · rintro ⟨member, hmem, hname⟩
    exact ⟨member, ((perm_sortBy _ _).filter _).mem_iff.mpr hmem, hname⟩

/-- Stores with the same members select the same. -/
theorem mem_selected_congr {s s' : MemoryStore} {set set' : Resource} {name : String}
    (hname : set'.name = set.name)
    (h : ∀ r, r ∈ s'.labelled set.name ↔ r ∈ s.labelled set.name) :
    name ∈ s'.selected set' ↔ name ∈ s.selected set := by
  rw [mem_selected, mem_selected, hname]
  simp only [h]

/-! ## How it ends -/

/-- The rebuilds of the cache among some calls: which set, and whom it
selected. -/
def Call.rebuild? : Call → Option (String × List String)
  | .rebuild set selected _ => some (set, selected)
  | _ => none

/-- The rebuilds of the cache among some calls, oldest first. -/
def rebuilds (calls : List Call) : List (String × List String) := calls.filterMap Call.rebuild?

/-- The status of a set was brought up to date, and nothing else changed. -/
structure Settled (key : Key) (set : Resource) (n : Nat) (before after : MemoryStore) : Prop where
  tells : ∃ set', after.object? .set key = some set' ∧ Tells n set' ∧
    set'.isDeleting = set.isDeleting
  others : ∀ {kind : Kind} {key' : Key}, (Kind.set, key) ≠ (kind, key') →
    after.object? kind key' = before.object? kind key'
  later : Later before after
  readFaults : after.readFaults <:+ before.readFaults
  writeFaults : after.writeFaults <:+ before.writeFaults

/-- An error that comes of a planted fault, and may mend if the fault
may. -/
def Planted (s : MemoryStore) (e : StoreError) : Prop :=
  ∃ fault, (fault ∈ s.readFaults ∨ fault ∈ s.writeFaults) ∧
    (fault.isRetryable = true → e.isRetryable = true)

/-- **What a reconciliation has done** to store and cache, with the rebuilds
of the cache, by how it ended. -/
inductive SyncEnds (prune : Bool) (key : Key) (before after : MemoryStore)
    (cache cache' : Membership) :
    List (String × List String) → Hub.Ending (Except StoreError SyncOutcome) → Prop
  /-- There is no such set, or it is marked for deletion. -/
  | idle (outcome : SyncOutcome) (same : Consulted before after) (kept : cache' = cache)
      (nothing : ∀ set, before.object? .set key = some set → set.isDeleting = true) :
      SyncEnds prune key before after cache cache' [] (.result (.ok outcome))
  /-- It failed before the cache was rebuilt. -/
  | failed (e : StoreError) (same : Consulted before after) (kept : cache' = cache)
      (cause : key.ns = none → Planted before e) :
      SyncEnds prune key before after cache cache' [] (.result (.error e))
  /-- It failed after the cache was rebuilt. -/
  | refused {set : Resource} (e : StoreError) (found : before.object? .set key = some set)
      (live : set.isDeleting = false) (same : Consulted before after)
      (rebuilt : cache' = (cache.rebuild set.name (before.selected set) prune).2)
      (cause : Planted before e) :
      SyncEnds prune key before after cache cache' [(set.name, before.selected set)]
        (.result (.error e))
  /-- The set was brought up to date. -/
  | reconciled {set : Resource} (outcome : SyncOutcome)
      (found : before.object? .set key = some set) (live : set.isDeleting = false)
      (settled : Settled key set (before.selected set).length before after)
      (rebuilt : cache' = (cache.rebuild set.name (before.selected set) prune).2) :
      SyncEnds prune key before after cache cache' [(set.name, before.selected set)]
        (.result (.ok outcome))
  /-- The time of the condition would lie beyond the calendar. -/
  | aborted {set : Resource} {c : Condition} (found : before.object? .set key = some set)
      (live : set.isDeleting = false) (same : Consulted before after)
      (rebuilt : cache' = (cache.rebuild set.name (before.selected set) prune).2)
      (condition : Condition.find? ClusterSet.emptyType set.conditions = some c)
      (last : c.since.addMicrosecond = none) :
      SyncEnds prune key before after cache cache' [(set.name, before.selected set)] .aborted

/-- **The frame of a reconciliation**: no other object changes, and no
object appears. -/
structure SyncFrame (key : Key) (before after : MemoryStore) : Prop where
  later : Later before after
  others : ∀ {kind : Kind} {key' : Key}, (Kind.set, key) ≠ (kind, key') →
    after.object? kind key' = before.object? kind key'
  known : ∀ {kind : Kind} {key' : Key} {r : Resource}, after.object? kind key' = some r →
    ∃ r', before.object? kind key' = some r'
  readFaults : after.readFaults <:+ before.readFaults
  writeFaults : after.writeFaults <:+ before.writeFaults

section Ends

variable {prune : Bool} {key : Key} {before after : MemoryStore} {cache cache' : Membership}
variable {log : List (String × List String)}
variable {ending : Hub.Ending (Except StoreError SyncOutcome)}

theorem SyncFrame.of_consulted (hs : before.Sound) (same : Consulted before after) :
    SyncFrame key before after :=
  ⟨.of_consulted hs same, fun _ => same.object? _ _, fun h => ⟨_, (same.object? _ _).symm.trans h⟩,
    same.readFaults, same.writeFaults⟩

theorem SyncFrame.of_settled {set : Resource} {n : Nat}
    (found : before.object? .set key = some set) (settled : Settled key set n before after) :
    SyncFrame key before after := by
  refine ⟨settled.later, settled.others, fun {kind key' r} h => ?_, settled.readFaults,
    settled.writeFaults⟩
  by_cases hplace : (Kind.set, key) = (kind, key')
  · obtain ⟨rfl, rfl⟩ := Prod.mk.inj hplace
    exact ⟨set, found⟩
  · exact ⟨r, (settled.others hplace).symm.trans h⟩

theorem SyncEnds.frame (hs : before.Sound)
    (ends : SyncEnds prune key before after cache cache' log ending) :
    SyncFrame key before after := by
  cases ends with
  | idle outcome same kept nothing => exact .of_consulted hs same
  | failed e same kept cause => exact .of_consulted hs same
  | refused e found live same rebuilt cause => exact .of_consulted hs same
  | reconciled outcome found live settled rebuilt => exact .of_settled found settled
  | aborted found live same rebuilt condition last => exact .of_consulted hs same

/-- The cache is left alone, or rebuilt once for the set of the key. -/
theorem SyncEnds.rebuilt (ends : SyncEnds prune key before after cache cache' log ending) :
    (log = [] ∧ cache' = cache) ∨
      ∃ set, before.object? .set key = some set ∧ log = [(set.name, before.selected set)] ∧
        cache' = (cache.rebuild set.name (before.selected set) prune).2 := by
  cases ends with
  | idle outcome same kept nothing => exact .inl ⟨rfl, kept⟩
  | failed e same kept cause => exact .inl ⟨rfl, kept⟩
  | refused e found live same rebuilt cause => exact .inr ⟨_, found, rfl, rebuilt⟩
  | reconciled outcome found live settled rebuilt => exact .inr ⟨_, found, rfl, rebuilt⟩
  | aborted found live same rebuilt condition last => exact .inr ⟨_, found, rfl, rebuilt⟩

end Ends

/-! ## The status -/

section Status

open StatusUpdate

variable {before after : MemoryStore} {key : Key} {set : Resource} {n : Nat} {now : Instant}
variable {policy : RetryPolicy} {deadline : Option Moment}

/-- The update that publishes whether a set is empty. -/
def publishing (key : Key) (n : Nat) (now : Instant) (policy : RetryPolicy)
    (deadline : Option Moment) : UpdateJob :=
  ⟨.set, key, [Mutation.set (ClusterSet.emptyCondition n now)], policy, deadline⟩

theorem applyAll_set (d : Condition) (cs : List Condition) :
    Mutation.applyAll [Mutation.set d] cs =
      match Condition.set d cs with
      | some cs' => .ok cs'
      | none => .error .beyondCalendar := applyAll_set_cons d [] cs

theorem emptyCondition_type (n : Nat) (now : Instant) :
    (ClusterSet.emptyCondition n now).type = ClusterSet.emptyType := by
  unfold ClusterSet.emptyCondition
  split <;> rfl

/-- What was published is told. -/
theorem tells_of_applyAll {set' : Resource} {cs : List Condition}
    (h : Mutation.applyAll [Mutation.set (ClusterSet.emptyCondition n now)] cs =
      .ok set'.conditions) : Tells n set' := by
  rw [applyAll_set] at h
  cases hset : Condition.set (ClusterSet.emptyCondition n now) cs with
  | none =>
    rw [hset] at h
    cases h
  | some cs' =>
    rw [hset] at h
    obtain rfl := Except.ok.inj h
    exact tells_of_shows (Condition.shows_set hset)

/-- **How publishing ends**: the status was brought up to date, or it fails for
a planted fault, or it is broken off at the end of the calendar. -/
inductive PublishEnds (key : Key) (set : Resource) (n : Nat) (before after : MemoryStore)
    {α : Type} : Hub.Ending (Except StoreError α) → Prop
  | settled (a : α) (settled : Settled key set n before after) :
      PublishEnds key set n before after (.result (.ok a))
  | failed (e : StoreError) (same : Consulted before after) (cause : Planted before e) :
      PublishEnds key set n before after (.result (.error e))
  | aborted {c : Condition} (same : Consulted before after)
      (condition : Condition.find? ClusterSet.emptyType set.conditions = some c)
      (last : c.since.addMicrosecond = none) : PublishEnds key set n before after .aborted

/-- **Publishing** as an update that runs alone. -/
theorem publishing_ends (hs : before.Sound) (found : before.object? .set key = some set)
    {ending : Hub.Ending (Except StoreError UpdateResult)}
    (ends : UpdateEnds (publishing key n now policy deadline) before after ending) :
    PublishEnds key set n before after ending := by
  have hstored {stored : Resource} (h : before.object? .set key = some stored) : stored = set :=
    Option.some.inj (h.symm.trans found)
  cases ends with
  | kept cs same leaves =>
    obtain ⟨stored, h, happly⟩ := leaves
    obtain rfl := hstored h
    refine .settled _ ⟨⟨stored, ?_, tells_of_applyAll happly, rfl⟩, fun _ => same.object? _ _,
      .of_consulted hs same, same.readFaults, same.writeFaults⟩
    rw [same.object?, found]
  | written written applied later readFaults writeFaults =>
    obtain ⟨stored, m, h, happly, hwritten⟩ := applied.stored
    obtain rfl := hstored h
    refine .settled _ ⟨⟨written, applied.found, tells_of_applyAll happly, ?_⟩, applied.others,
      later, readFaults, writeFaults⟩
    rw [hwritten]
    rfl
  | failed e same cause =>
    refine .failed e same ?_
    cases cause with
    | planted h mends => exact ⟨_, h, mends⟩
    | gone h eq => cases h.symm.trans found
    | refused h refuses =>
      -- the mutation sets one condition: it may be past the calendar, but it refuses nothing
      rw [publishing, applyAll_set] at refuses
      split at refuses <;> cases refuses
  | @aborted stored same h refuses =>
    obtain rfl := hstored h
    rw [publishing, applyAll_set] at refuses
    cases hset : Condition.set (ClusterSet.emptyCondition n now) stored.conditions with
    | some cs' =>
      rw [hset] at refuses
      cases refuses
    | none =>
      obtain ⟨c, hfind, hlast⟩ := Condition.set_eq_none hset
      rw [emptyCondition_type] at hfind
      exact .aborted same hfind hlast

end Status

/-! ## The run -/

/-- Two hubs that differ at most in what is counted, told and read off the
clocks. -/
structure Hub.Alike (h h' : Hub MemoryStore) : Prop where
  store : h'.store = h.store
  cache : h'.cache = h.cache
  queue : h'.queue = h.queue
  delayed : h'.delayed = h.delayed

theorem Hub.Alike.trans {h h' h'' : Hub MemoryStore} (a : h.Alike h') (a' : h'.Alike h'') :
    h.Alike h'' :=
  ⟨a'.store.trans a.store, a'.cache.trans a.cache, a'.queue.trans a.queue,
    a'.delayed.trans a.delayed⟩

theorem Hub.Alike.grows {h h' : Hub MemoryStore} (a : h.Alike h') (hs : h.queue.Sound)
    (hopen : h.queue.closed = false) : h.Grows h' := .of_same hs hopen a.queue a.delayed

/-- A call that only counts, tells or looks at a clock. -/
inductive Call.IsRemark : Call → Prop
  | record (event : Event) : IsRemark (.record event)
  | count (counter : Counter) : IsRemark (.count counter)
  | clock : IsRemark .clock
  | calendar : IsRemark .calendar
  | settled (key : Key) : IsRemark (.settled key)
  | failed (key : Key) : IsRemark (.failed key)

theorem Call.IsRemark.alike {c : Call} (hc : c.IsRemark) {h h' : Hub MemoryStore} {a : c.Answer}
    (answers : h.Answers c a h') : h.Alike h' := by
  cases answers with
  | usual => cases hc <;> exact ⟨rfl, rfl, rfl, rfl⟩
  | drawn => exact ⟨rfl, rfl, rfl, rfl⟩
  | shown => exact ⟨rfl, rfl, rfl, rfl⟩

theorem rebuilds_cons {c : Call} (hc : c.rebuild? = none) (calls : List Call) :
    rebuilds (c :: calls) = rebuilds calls := List.filterMap_cons_none hc

theorem rebuilds_append (calls later : List Call) :
    rebuilds (calls ++ later) = rebuilds calls ++ rebuilds later := List.filterMap_append

/-- A remark is made, and the program goes on. -/
theorem Runs.of_remark {α : Type} {c : Call} (hc : c.IsRemark) {next : c.Answer → Program α}
    {h h' : Hub MemoryStore} {calls : List Call} {ending : Hub.Ending α}
    (run : Runs (.call c next) h calls ending h') :
    ∃ a mid later, h.Alike mid ∧ rebuilds calls = rebuilds later ∧
      Runs (next a) mid later ending h' := by
  obtain ⟨a, mid, later, answers, rfl, rest⟩ := run.of_call
  refine ⟨a, mid, later, hc.alike answers, ?_, rest⟩
  cases hc <;> exact rebuilds_cons rfl later

/-- Events are told one after another, and nothing else happens. -/
theorem Runs.of_records {events : List Event} {h h' : Hub MemoryStore} {calls : List Call}
    {ending : Hub.Ending Unit}
    (run : Runs (Program.each (fun event => .ask (.record event)) events) h calls ending h') :
    ending = .result () ∧ h' = { h with events := h.events ++ events } ∧ rebuilds calls = [] := by
  induction events generalizing h calls with
  | nil =>
    obtain ⟨rfl, rfl, rfl⟩ := run.of_done
    rw [List.append_nil]
    exact ⟨rfl, rfl, rfl⟩
  | cons event rest ih =>
    obtain ⟨a, mid, later, answers, rfl, run⟩ := run.of_call
    obtain ⟨-, rfl⟩ := answers.eq (fun _ heq => nomatch heq) (fun heq => nomatch heq)
    obtain ⟨hending, hafter, hrest⟩ := ih run
    refine ⟨hending, hafter.trans ?_, (rebuilds_cons rfl later).trans hrest⟩
    change { h with events := (h.events ++ [event]) ++ rest } = _
    rw [List.append_assoc, List.singleton_append]

section Run

open StatusUpdate

variable {prune : Bool} {policy : RetryPolicy} {deadline : Option Moment} {key : Key}
variable {h h' : Hub MemoryStore} {calls : List Call}
variable {ending : Hub.Ending (Except StoreError SyncOutcome)}

/-- No call of an update rebuilds the cache. -/
theorem rebuilds_update {calls : List Call} (h : ∀ c ∈ calls, IsCall c) : rebuilds calls = [] := by
  refine List.filterMap_eq_nil_iff.mpr fun c hc => ?_
  cases h c hc <;> rfl

/-- What follows the update: its result is passed on as that of the
reconciliation. -/
def publishThen (key : Key) (n : Nat) (now : Instant) (policy : RetryPolicy)
    (deadline : Option Moment) (churn : Churn) : Program (Except StoreError SyncOutcome) :=
  (ofJob (publishing key n now policy deadline)).bind fun
    | .ok result => .done (.ok (.reconciled n churn result.updated))
    | .error e => .done (.error e)

/-- **Publishing alone**: what it does to the store, and that it leaves the
cache alone. -/
theorem publishThen_ends {set : Resource} {n : Nat} {now : Instant} {churn : Churn}
    (hs : h.store.Sound) (hq : h.queue.Sound) (hopen : h.queue.closed = false)
    (found : h.store.object? .set key = some set)
    (run : Runs (publishThen key n now policy deadline churn) h calls ending h') :
    PublishEnds key set n h.store h'.store ending ∧ h.Grows h' ∧ h'.cache = h.cache ∧
      rebuilds calls = [] := by
  cases run.of_bind with
  | aborted update =>
    obtain ⟨⟨hgrows, hcache⟩, hcalls, -⟩ := run_aside hq hopen update
    refine ⟨?_, hgrows, hcache, rebuilds_update hcalls⟩
    cases publishing_ends hs found (run_ends hs update) with
    | aborted same condition last => exact .aborted same condition last
  | stuck update => exact absurd rfl (run_aside hq hopen update).2.2
  | @both result calls later mid _ _ update run =>
    obtain ⟨⟨hgrows, hcache⟩, hcalls, -⟩ := run_aside hq hopen update
    have hends := publishing_ends hs found (run_ends hs update)
    cases result with
    | ok result =>
      obtain ⟨rfl, rfl, rfl⟩ := run.of_done
      rw [List.append_nil]
      refine ⟨?_, hgrows, hcache, rebuilds_update hcalls⟩
      cases hends with
      | settled _ settled => exact .settled _ settled
    | error e =>
      obtain ⟨rfl, rfl, rfl⟩ := run.of_done
      rw [List.append_nil]
      refine ⟨?_, hgrows, hcache, rebuilds_update hcalls⟩
      cases hends with
      | failed _ same cause => exact .failed e same cause

/-- What follows the rebuild of the cache: it is told who joined and who
left, and the status is published. -/
def afterRebuild (prune : Bool) (policy : RetryPolicy) (deadline : Option Moment) (key : Key)
    (set : Resource) (n : Nat) (churn : Churn) : Program (Except StoreError SyncOutcome) :=
  (Program.each (fun event => .ask (.record event))
    (ClusterSet.churnEvents set.name churn prune)).bind fun _ =>
      .call .calendar fun now => publishThen key n now policy deadline churn

/-- Between the rebuild and the publishing the churn is told and the calendar
is looked at. -/
theorem Runs.of_afterRebuild {set : Resource} {n : Nat} {churn : Churn}
    (run : Runs (afterRebuild prune policy deadline key set n churn) h calls ending h') :
    ∃ now later, rebuilds calls = rebuilds later ∧
      Runs (publishThen key n now policy deadline churn)
        { h with
          events := h.events ++ ClusterSet.churnEvents set.name churn prune
          calendar := now } later ending h' := by
  cases run.of_bind with
  | aborted told => cases told.of_records.1
  | stuck told => cases told.of_records.1
  | @both _ told _ _ _ _ records run =>
    obtain ⟨-, rfl, hnone⟩ := records.of_records
    obtain ⟨now, shown, later, answers, rfl, run⟩ := run.of_call
    obtain rfl := answers.calendar
    refine ⟨now, later, ?_, run⟩
    rw [rebuilds_append, hnone, List.nil_append, rebuilds_cons rfl later]

/-- After the rebuild nothing but the status changes. -/
theorem afterRebuild_ends {set : Resource} {n : Nat} {churn : Churn} (hs : h.store.Sound)
    (hq : h.queue.Sound) (hopen : h.queue.closed = false)
    (found : h.store.object? .set key = some set)
    (run : Runs (afterRebuild prune policy deadline key set n churn) h calls ending h') :
    PublishEnds key set n h.store h'.store ending ∧ h.Grows h' ∧ h'.cache = h.cache ∧
      rebuilds calls = [] := by
  obtain ⟨now, later, hcalls, run⟩ := run.of_afterRebuild
  let shown : Hub MemoryStore :=
    { h with
      events := h.events ++ ClusterSet.churnEvents set.name churn prune
      calendar := now }
  have hto : h.Alike shown := ⟨rfl, rfl, rfl, rfl⟩
  have hgrows : h.Grows shown := hto.grows hq hopen
  obtain ⟨hends, hgrown, hcache, hquiet⟩ :=
    publishThen_ends (h := shown) hs hgrows.sound hgrows.closed found run
  exact ⟨hends, hgrows.trans hgrown, hcache, hcalls.trans hquiet⟩

/-- **Bringing a set up to date** that was found alive. -/
theorem refresh_ends {set : Resource} (hs : h.store.Sound) (hq : h.queue.Sound)
    (hopen : h.queue.closed = false) (found : h.store.object? .set key = some set)
    (live : set.isDeleting = false)
    (run : Runs (ClusterSet.refresh prune policy deadline key set
      (Key.sortBy Resource.key (h.store.objects .member))) h calls ending h') :
    SyncEnds prune key h.store h'.store h.cache h'.cache (rebuilds calls) ending ∧
      h.Grows h' ∧ ending ≠ .stuck := by
  obtain ⟨churn, mid, calls, answers, rfl, run⟩ := run.of_call
  obtain ⟨-, rfl⟩ := answers.eq (fun _ heq => nomatch heq) (fun heq => nomatch heq)
  let mid : Hub MemoryStore :=
    { h with cache := (h.cache.rebuild set.name (h.store.selected set) prune).2 }
  have hmid : mid.store.Sound := hs
  change Runs (afterRebuild prune policy deadline key set (h.store.selected set).length churn)
    mid calls ending h' at run
  change SyncEnds prune key h.store h'.store h.cache h'.cache
    ((set.name, h.store.selected set) :: rebuilds calls) ending ∧ _
  obtain ⟨hends, hgrows, hcache, hquiet⟩ := afterRebuild_ends hmid hq hopen found run
  have hstep : h.Grows mid := .of_same hq hopen rfl rfl
  have hgrown : h.Grows h' := hstep.trans hgrows
  rw [hquiet]
  cases hends with
  | settled outcome settled =>
    exact ⟨.reconciled outcome found live settled hcache, hgrown, fun heq => nomatch heq⟩
  | failed e same cause => exact ⟨.refused e found live same hcache cause, hgrown, fun heq => nomatch heq⟩
  | aborted same condition last =>
    exact ⟨.aborted found live same hcache condition last, hgrown, fun heq => nomatch heq⟩

/-- A read in the store of a hub. -/
theorem Runs.of_get {α : Type} {kind : Kind} {next : Except StoreError (Option Resource) → Program α}
    {ending : Hub.Ending α} (run : Runs (.call (.get kind key) next) h calls ending h') :
    ∃ later, rebuilds calls = rebuilds later ∧ Runs (next (h.store.get kind key).1)
      { h with store := (h.store.get kind key).2 } later ending h' := by
  obtain ⟨found, mid, later, answers, rfl, rest⟩ := run.of_call
  obtain ⟨rfl, rfl⟩ := answers.eq (fun _ heq => nomatch heq) (fun heq => nomatch heq)
  exact ⟨later, rebuilds_cons rfl later, rest⟩

/-- A read of a kind in the store of a hub. -/
theorem Runs.of_list {α : Type} {kind : Kind} {next : Except StoreError (List Resource) → Program α}
    {ending : Hub.Ending α} (run : Runs (.call (.list kind) next) h calls ending h') :
    ∃ later, rebuilds calls = rebuilds later ∧ Runs (next (h.store.list kind).1)
      { h with store := (h.store.list kind).2 } later ending h' := by
  obtain ⟨found, mid, later, answers, rfl, rest⟩ := run.of_call
  obtain ⟨rfl, rfl⟩ := answers.eq (fun _ heq => nomatch heq) (fun heq => nomatch heq)
  exact ⟨later, rebuilds_cons rfl later, rest⟩

theorem Planted.before {s s' : MemoryStore} {e : StoreError} (same : Consulted s s')
    (h : Planted s' e) : Planted s e := by
  obtain ⟨fault, hfault, hmends⟩ := h
  exact ⟨fault, hfault.imp (same.readFaults.subset ·) (same.writeFaults.subset ·), hmends⟩

theorem labelled_of_consulted {s s' : MemoryStore} (same : Consulted s s') (name : String) :
    s'.labelled name = s.labelled name := by
  rw [MemoryStore.labelled, MemoryStore.labelled, same.objects]

theorem selected_of_consulted {s s' : MemoryStore} (same : Consulted s s') (set : Resource) :
    s'.selected set = s.selected set := by
  rw [MemoryStore.selected, MemoryStore.selected, same.objects]

theorem Settled.before {s s' s'' : MemoryStore} {set : Resource} {n : Nat} (hs : s.Sound)
    (same : Consulted s s') (h : Settled key set n s' s'') : Settled key set n s s'' :=
  ⟨h.tells, fun hne => (h.others hne).trans (same.object? _ _),
    (Later.of_consulted hs same).trans h.later, h.readFaults.trans same.readFaults,
    h.writeFaults.trans same.writeFaults⟩

/-- Requests before a reconciliation that wrote nothing make no
difference. -/
theorem SyncEnds.before {s s' s'' : MemoryStore} {cache cache' : Membership}
    {log : List (String × List String)} (hs : s.Sound) (same : Consulted s s')
    (ends : SyncEnds prune key s' s'' cache cache' log ending) :
    SyncEnds prune key s s'' cache cache' log ending := by
  cases ends with
  | idle outcome same' kept nothing =>
    exact .idle outcome (same.trans same') kept fun set h => nothing set (by rwa [same.object?])
  | failed e same' kept cause =>
    exact .failed e (same.trans same') kept fun hns => (cause hns).before same
  | refused e found live same' rebuilt cause =>
    rw [selected_of_consulted same] at rebuilt ⊢
    rw [same.object?] at found
    exact .refused e found live (same.trans same') rebuilt (cause.before same)
  | reconciled outcome found live settled rebuilt =>
    rw [selected_of_consulted same] at settled rebuilt ⊢
    rw [same.object?] at found
    exact .reconciled outcome found live (settled.before hs same) rebuilt
  | aborted found live same' rebuilt condition last =>
    rw [selected_of_consulted same] at rebuilt ⊢
    rw [same.object?] at found
    exact .aborted found live (same.trans same') rebuilt condition last

/-- What is done with a live set: the members are listed, and the set is
brought up to date. -/
def listThen (prune : Bool) (policy : RetryPolicy) (deadline : Option Moment) (key : Key)
    (set : Resource) : Program (Except StoreError SyncOutcome) :=
  .call (.list .member) fun
    | .error e => .done (.error e)
    | .ok members => ClusterSet.refresh prune policy deadline key set members

/-- **Listing the members** and bringing a live set up to date. -/
theorem listThen_ends {set : Resource} (hs : h.store.Sound) (hq : h.queue.Sound)
    (hopen : h.queue.closed = false) (found : h.store.object? .set key = some set)
    (live : set.isDeleting = false)
    (run : Runs (listThen prune policy deadline key set) h calls ending h') :
    SyncEnds prune key h.store h'.store h.cache h'.cache (rebuilds calls) ending ∧
      h.Grows h' ∧ ending ≠ .stuck := by
  obtain ⟨calls, hcalls, run⟩ := run.of_list
  rw [hcalls]
  obtain ⟨hsame, ⟨fault, hfault, hlist⟩ | hlist⟩ := hs.list_cases .member
  · rw [hlist] at run
    obtain ⟨rfl, rfl, rfl⟩ := run.of_done
    have hplanted : Planted h.store fault := ⟨fault, .inl hfault, id⟩
    exact ⟨.failed fault hsame rfl fun _ => hplanted, .of_same hq hopen rfl rfl,
      fun heq => nomatch heq⟩
  · rw [hlist] at run
    let mid : Hub MemoryStore := { h with store := (h.store.list .member).2 }
    have hfound : mid.store.object? .set key = some set := (hsame.object? .set key).trans found
    have hmembers : mid.store.objects .member = h.store.objects .member := hsame.objects .member
    have hstep : h.Grows mid := .of_same hq hopen rfl rfl
    rw [← hmembers] at run
    obtain ⟨hends, hgrows, hstuck⟩ :=
      refresh_ends (hsame.sound hs) hstep.sound hstep.closed hfound live run
    exact ⟨hends.before hs hsame, hstep.trans hgrows, hstuck⟩

/-- **Bringing the set of a key up to date.** -/
theorem bringUpToDate_ends (hs : h.store.Sound) (hq : h.queue.Sound)
    (hopen : h.queue.closed = false)
    (run : Runs (ClusterSet.bringUpToDate prune policy deadline key) h calls ending h') :
    SyncEnds prune key h.store h'.store h.cache h'.cache (rebuilds calls) ending ∧
      h.Grows h' ∧ ending ≠ .stuck := by
  unfold ClusterSet.bringUpToDate at run
  split at run
  · rename_i hns
    obtain ⟨rfl, rfl, rfl⟩ := run.of_done
    refine ⟨.failed _ (.refl _) rfl fun hnone => ?_, .refl hq hopen, fun heq => nomatch heq⟩
    rw [hnone] at hns
    cases hns
  obtain ⟨calls, hcalls, run⟩ := run.of_get
  rw [hcalls]
  obtain ⟨hsame, ⟨fault, hfault, hget⟩ | hget⟩ := hs.get_cases .set key
  · rw [hget] at run
    obtain ⟨rfl, rfl, rfl⟩ := run.of_done
    have hplanted : Planted h.store fault := ⟨fault, .inl hfault, id⟩
    exact ⟨.failed fault hsame rfl fun _ => hplanted, .of_same hq hopen rfl rfl,
      fun heq => nomatch heq⟩
  rw [hget] at run
  -- whatever was found, the read wrote nothing
  let mid : Hub MemoryStore := { h with store := (h.store.get .set key).2 }
  have hstep : h.Grows mid := .of_same hq hopen rfl rfl
  cases hobject : h.store.object? .set key with
  | none =>
    rw [hobject] at run
    obtain ⟨rfl, rfl, rfl⟩ := run.of_done
    refine ⟨.idle _ hsame rfl fun set h => ?_, hstep, fun heq => nomatch heq⟩
    cases h.symm.trans hobject
  | some set =>
    rw [hobject] at run
    dsimp only at run
    split at run
    · rename_i hdeleting
      obtain ⟨rfl, rfl, rfl⟩ := run.of_done
      refine ⟨.idle _ hsame rfl fun set' h => ?_, hstep, fun heq => nomatch heq⟩
      obtain rfl := Option.some.inj (hobject.symm.trans h)
      exact hdeleting
    · rename_i hlive
      rw [Bool.not_eq_true] at hlive
      have hfound : mid.store.object? .set key = some set := (hsame.object? .set key).trans hobject
      obtain ⟨hends, hgrows, hstuck⟩ :=
        listThen_ends (hsame.sound hs) hstep.sound hstep.closed hfound hlive run
      exact ⟨hends.before hs hsame, hstep.trans hgrows, hstuck⟩

/-- **Reconciling the set of a key.** -/
theorem reconcile_ends (hs : h.store.Sound) (hq : h.queue.Sound) (hopen : h.queue.closed = false)
    (run : Runs (ClusterSet.reconcile prune policy deadline key) h calls ending h') :
    SyncEnds prune key h.store h'.store h.cache h'.cache (rebuilds calls) ending ∧
      h.Grows h' ∧ ending ≠ .stuck := by
  obtain ⟨a, mid, later, alike, hcalls, whole⟩ := run.of_remark (.count .syncs)
  have hgrows := alike.grows hq hopen
  have hsound : mid.store.Sound := by rw [alike.store]; exact hs
  rw [hcalls, ← alike.store, ← alike.cache]
  cases whole.of_bind with
  | aborted run =>
    obtain ⟨hends, hgrown, -⟩ := bringUpToDate_ends hsound hgrows.sound hgrows.closed run
    exact ⟨hends, hgrows.trans hgrown, fun heq => nomatch heq⟩
  | stuck run =>
    exact absurd rfl (bringUpToDate_ends hsound hgrows.sound hgrows.closed run).2.2
  | @both result first later _ _ _ run rest =>
    obtain ⟨hends, hgrown, -⟩ := bringUpToDate_ends hsound hgrows.sound hgrows.closed run
    obtain ⟨a, mid', last, alike', hlast, rest⟩ := rest.of_remark (.count .syncLatency)
    -- what follows only counts, and passes the result on
    obtain ⟨hto, hresult, hquiet⟩ : mid'.Alike h' ∧ ending = .result result ∧ rebuilds last = [] := by
      cases result with
      | ok outcome =>
        obtain ⟨rfl, rfl, rfl⟩ := rest.of_done
        exact ⟨⟨rfl, rfl, rfl, rfl⟩, rfl, rfl⟩
      | error e =>
        obtain ⟨a, mid'', calls, alike'', hcalls, rest⟩ := rest.of_remark (.count .syncErrors)
        obtain ⟨rfl, rfl, rfl⟩ := rest.of_done
        exact ⟨alike'', rfl, hcalls⟩
    have hthen := alike'.trans hto
    have hwhole : rebuilds (first ++ later) = rebuilds first := by
      rw [rebuilds_append, hlast, hquiet, List.append_nil]
    rw [hwhole, hresult, hthen.store, hthen.cache]
    exact ⟨hends, (hgrows.trans hgrown).trans (hthen.grows hgrown.sound hgrown.closed),
      fun heq => nomatch heq⟩

end Run

end ClusterFleet
