import ClusterFleet.Proofs.Object.Place
import ClusterFleet.Proofs.Store.Faultless
import ClusterFleet.Proofs.Sync.Release

/-!
# Sync — reconciling where nothing fails

A reconciliation over a store without planted faults, where nobody
interferes, leaves nothing open but the times of the conditions: it finds
no set, or one that is marked, or it puts the set's condition in its place,
tells the churn of one rebuild, and touches nothing else (`QuietEnds`). A
set whose status is right already is not written.
-/

namespace ClusterFleet

open MemoryStore StatusUpdate Program

/-! ## A set brought up to date -/

section Refreshed

variable {n : Nat} {now : Instant} {set set' set'' : Resource}

/-- The condition of a set differs from time to time only in its time. -/
theorem emptyCondition_at (n : Nat) (now t : Instant) :
    { ClusterSet.emptyCondition n now with since := t } = ClusterSet.emptyCondition n t := by
  unfold ClusterSet.emptyCondition
  split <;> rfl

theorem shows_of_tells (h : Tells n set) (now : Instant) :
    (ClusterSet.emptyCondition n now).Shows set.conditions := by
  rw [← emptyCondition_at n Instant.epoch now]
  exact h

/-- **A set and its later state**, brought up to date: the condition stands
in its place at some time, and else only the version may be another. -/
structure Refreshed (n : Nat) (set set' : Resource) : Prop where
  metadata : ∃ version, set'.metadata = { set.metadata with version := version }
  conditions : ∃ t, set'.conditions = Condition.place (ClusterSet.emptyCondition n t) set.conditions

namespace Refreshed

theorem isDeleting (h : Refreshed n set set') : set'.isDeleting = set.isDeleting := by
  obtain ⟨version, hmetadata⟩ := h.metadata
  unfold Resource.isDeleting
  rw [hmetadata]

theorem name (h : Refreshed n set set') : set'.name = set.name := by
  obtain ⟨version, hmetadata⟩ := h.metadata
  unfold Resource.name
  rw [hmetadata]

theorem tells (h : Refreshed n set set') : Tells n set' := by
  obtain ⟨t, hconditions⟩ := h.conditions
  have hshows : (ClusterSet.emptyCondition n t).Shows set'.conditions := by
    refine ⟨ClusterSet.emptyCondition n t, ?_, rfl, rfl, rfl⟩
    rw [hconditions]
    exact Condition.find?_place _ _
  exact tells_of_shows hshows

/-- Brought up to date twice is brought up to date. -/
theorem trans (h : Refreshed n set set') (h' : Refreshed n set' set'') : Refreshed n set set'' := by
  obtain ⟨version, hmetadata⟩ := h.metadata
  obtain ⟨version', hmetadata'⟩ := h'.metadata
  obtain ⟨t, hconditions⟩ := h.conditions
  obtain ⟨t', hconditions'⟩ := h'.conditions
  have htype : (ClusterSet.emptyCondition n t').type = (ClusterSet.emptyCondition n t).type := by
    rw [emptyCondition_type, emptyCondition_type]
  refine ⟨⟨version', by rw [hmetadata', hmetadata]⟩, t', ?_⟩
  rw [hconditions', hconditions, Condition.place_place htype]

theorem timeless (h : Refreshed n set set') : set'.timeless =
    { metadata := { set.metadata with version := none }
      conditions := Condition.place (ClusterSet.emptyCondition n Instant.epoch)
        (set.conditions.map Condition.timeless) } := by
  obtain ⟨version, hmetadata⟩ := h.metadata
  obtain ⟨t, hconditions⟩ := h.conditions
  have hempty : (ClusterSet.emptyCondition n t).timeless = ClusterSet.emptyCondition n Instant.epoch :=
    emptyCondition_at n t Instant.epoch
  rw [Resource.timeless, hmetadata, hconditions, Condition.map_timeless_place, hempty]

end Refreshed

end Refreshed

/-- **What bringing a set up to date does to a store** without faults. -/
structure Refreshes (key : Key) (n : Nat) (set : Resource) (before after : MemoryStore) : Prop where
  refreshed : ∃ set', after.object? .set key = some set' ∧ Refreshed n set set'
  others : ∀ {kind : Kind} {key' : Key}, (Kind.set, key) ≠ (kind, key') →
    after.object? kind key' = before.object? kind key'
  members : after.objects .member = before.objects .member
  sound : after.Sound
  faultless : after.Faultless
  /-- A status that is right already is not written. -/
  quiet : Tells n set → Inspected before after

section Publish

variable {h h' : Hub MemoryStore} {key : Key} {set : Resource} {n : Nat} {now : Instant}
variable {policy : RetryPolicy} {deadline : Option Moment} {calls : List Call}

/-- The condition of a set has the last time of the calendar. -/
def AtLastTime (set : Resource) : Prop :=
  ∃ c, Condition.find? ClusterSet.emptyType set.conditions = some c ∧ c.since.addMicrosecond = none

/-- The status of a set is wrong, and the time of another one would lie
beyond the calendar. -/
def Outlasted (n : Nat) (set : Resource) : Prop := AtLastTime set ∧ ¬Tells n set

theorem outlasted_of_set (h : Condition.set (ClusterSet.emptyCondition n now) set.conditions = none) :
    Outlasted n set := by
  obtain ⟨c, hfind, hlast⟩ := Condition.set_eq_none h
  rw [emptyCondition_type] at hfind
  refine ⟨⟨c, hfind, hlast⟩, fun htells => ?_⟩
  rw [Condition.set_of_shows (shows_of_tells htells now)] at h
  cases h

theorem Refreshes.of_inspected {before after : MemoryStore} (hs : before.Sound)
    (hf : before.Faultless) (found : before.object? .set key = some set)
    (hset : Condition.set (ClusterSet.emptyCondition n now) set.conditions = some set.conditions)
    (same : Inspected before after) : Refreshes key n set before after := by
  have hconsulted := same.consulted
  obtain ⟨t, hplace⟩ := Condition.set_eq_place hset
  rw [emptyCondition_at] at hplace
  refine ⟨⟨set, ?_, ⟨_, rfl⟩, t, hplace⟩, fun _ => hconsulted.object? _ _, hconsulted.objects .member,
    hconsulted.sound hs, hconsulted.faultless hf, fun _ => same⟩
  rw [hconsulted.object?, found]

theorem Refreshes.of_held {before after : MemoryStore} {cs : List Condition} (hs : before.Sound)
    (hf : before.Faultless) (found : before.object? .set key = some set)
    (hset : Condition.set (ClusterSet.emptyCondition n now) set.conditions = some cs)
    (hchanged : cs ≠ set.conditions)
    (held : Consulted (before.hold .set { set with conditions := cs }) after) :
    Refreshes key n set before after := by
  obtain ⟨hkey, hnumbered, -⟩ := hs.found found
  obtain ⟨t, hplace⟩ := Condition.set_eq_place hset
  rw [emptyCondition_at] at hplace
  let written : Resource := { set with conditions := cs }
  have hheld : (before.hold .set written).Sound := hs.hold .set hnumbered.uid
  have hnone : (before.hold .set written).Faultless := ⟨hf.reads, hf.writes⟩
  refine ⟨⟨written.atVersion (before.versions + 1), ?_, ⟨_, rfl⟩, t, hplace⟩, fun hne => ?_, ?_,
    held.sound hheld, held.faultless hnone, ?_⟩
  · rw [held.object?, ← hkey]
    exact object?_hold_self .set written before
  · rw [held.object?]
    exact object?_hold_of_ne fun heq => hne (hkey ▸ heq)
  · rw [held.objects]
    exact objects_hold_of_ne (by decide) _ before
  · intro htells
    rw [Condition.set_of_shows (shows_of_tells htells now)] at hset
    exact absurd (Option.some.inj hset).symm hchanged

/-- Reads before a set was brought up to date make no difference. -/
theorem Refreshes.before {s s' s'' : MemoryStore} (h : Refreshes key n set s' s'')
    (same : Inspected s s') : Refreshes key n set s s'' :=
  ⟨h.refreshed, fun hne => (h.others hne).trans (same.consulted.object? _ _),
    h.members.trans (same.consulted.objects .member), h.sound, h.faultless,
    fun htells => same.trans (h.quiet htells)⟩

/-- **The write of a status** where nothing fails: nobody wrote since the read,
so the version is the stored one, and the write goes through. -/
theorem writing_quiet {ending : Hub.Ending (Except StoreError UpdateResult)} {attempt left : Nat}
    {cs : List Condition} (hs : h.store.Sound) (hf : h.store.Faultless)
    (found : h.store.object? .set key = some set)
    (hset : Condition.set (ClusterSet.emptyCondition n now) set.conditions = some cs)
    (hchanged : cs ≠ set.conditions)
    (run : Runs ((Position.writing attempt left set cs).program
      (publishing key n now policy deadline)) h calls ending h') :
    (∃ counts, h' = { h with store := h'.store, counts := counts }) ∧
      ∃ result, ending = .result (.ok result) ∧ Refreshes key n set h.store h'.store := by
  obtain ⟨written, mid, later, answers, rfl, run⟩ := run.of_call
  obtain ⟨rfl, rfl⟩ := answers.eq (fun _ heq => nomatch heq) (fun heq => nomatch heq)
  let desired : Resource := { set with conditions := cs }
  have hcurrent : h.store.object? .set desired.key = some set := by
    rw [show desired.key = key from (hs.found found).1, found]
  obtain ⟨hok, held⟩ := hf.updateStatus hs hcurrent
    (show desired.metadata.version = set.metadata.version from rfl)
  change Runs (Position.afterWrite (publishing key n now policy deadline) attempt left
    (h.store.updateStatus .set desired).1)
    { h with store := (h.store.updateStatus .set desired).2 } later ending h' at run
  rw [hok] at run
  obtain ⟨_, mid, rest, answers, rfl, run⟩ := run.of_call
  obtain ⟨-, rfl⟩ := answers.eq (fun _ heq => nomatch heq) (fun heq => nomatch heq)
  obtain ⟨-, rfl, rfl⟩ := run.of_done
  exact ⟨⟨_, rfl⟩, _, rfl, .of_held hs hf found hset hchanged held⟩

/-- **Publishing** where nothing fails: the status is right, or it is written
at the first attempt, or its time would lie beyond the calendar. -/
theorem publishing_quiet {ending : Hub.Ending (Except StoreError UpdateResult)}
    (hs : h.store.Sound) (hf : h.store.Faultless) (found : h.store.object? .set key = some set)
    (run : Runs (ofJob (publishing key n now policy deadline)) h calls ending h') :
    (∃ counts, h' = { h with store := h'.store, counts := counts }) ∧
      ((∃ result, ending = .result (.ok result) ∧ Refreshes key n set h.store h'.store) ∨
        (ending = .aborted ∧ Outlasted n set)) := by
  let job := publishing key n now policy deadline
  change Runs (Position.attemptsFrom job 1 (policy.attempts - 1)) h calls ending h' at run
  rw [Position.attemptsFrom_eq] at run
  obtain ⟨read, mid, later, answers, rfl, run⟩ := run.of_call
  obtain ⟨rfl, rfl⟩ := answers.eq (fun _ heq => nomatch heq) (fun heq => nomatch heq)
  obtain ⟨hget, hseen⟩ := hf.get hs .set key
  let seen : Hub MemoryStore := { h with store := (h.store.get .set key).2 }
  change Runs ((Position.ofRead job 1 _ (h.store.get .set key).1).program job) seen later ending h'
    at run
  rw [hget, found, Position.ofRead, show job.mutations = [Mutation.set _] from rfl, applyAll_set] at run
  -- one condition is set, and only the end of the calendar can stop that
  cases hset : Condition.set (ClusterSet.emptyCondition n now) set.conditions with
  | none =>
    rw [hset] at run
    obtain ⟨-, rfl, rfl⟩ := run.of_abort
    exact ⟨⟨h.counts, rfl⟩, .inr ⟨rfl, outlasted_of_set hset⟩⟩
  | some cs =>
    rw [hset] at run
    dsimp only at run
    by_cases hsame : cs = set.conditions
    · rw [if_pos hsame] at run
      obtain ⟨-, rfl, rfl⟩ := run.of_done
      rw [hsame] at hset
      exact ⟨⟨h.counts, rfl⟩, .inl ⟨_, rfl, .of_inspected hs hf found hset hseen⟩⟩
    · rw [if_neg hsame] at run
      have hfound : seen.store.object? .set key = some set :=
        (hseen.consulted.object? _ _).trans found
      obtain ⟨⟨counts, hcounts⟩, result, heq, hrefreshes⟩ :=
        writing_quiet (h := seen) (hseen.consulted.sound hs) (hseen.consulted.faultless hf) hfound
          hset hsame run
      exact ⟨⟨counts, hcounts⟩, .inl ⟨result, heq, hrefreshes.before hseen⟩⟩

end Publish

/-! ## The whole reconciliation -/

/-- Two hubs with the same timers, queue and failures. -/
structure Hub.Still (h h' : Hub MemoryStore) : Prop where
  clock : h'.clock = h.clock
  queue : h'.queue = h.queue
  failures : h'.failures = h.failures
  delayed : h'.delayed = h.delayed
  timers : h'.timers = h.timers

theorem Hub.Still.trans {h h' h'' : Hub MemoryStore} (a : h.Still h') (a' : h'.Still h'') :
    h.Still h'' :=
  ⟨a'.clock.trans a.clock, a'.queue.trans a.queue, a'.failures.trans a.failures,
    a'.delayed.trans a.delayed, a'.timers.trans a.timers⟩

/-- **What a reconciliation does** where nothing fails: to the store and the
cache, with the events that it tells, by how it ends. -/
inductive QuietEnds (prune : Bool) (key : Key) (before after : MemoryStore)
    (cache cache' : Membership) :
    List Event → Hub.Ending (Except StoreError SyncOutcome) → Prop
  | missing (gone : before.object? .set key = none) (same : Inspected before after)
      (kept : cache' = cache) :
      QuietEnds prune key before after cache cache' [] (.result (.ok .missing))
  | deleting {set : Resource} (found : before.object? .set key = some set)
      (marked : set.isDeleting = true) (same : Inspected before after) (kept : cache' = cache) :
      QuietEnds prune key before after cache cache' [] (.result (.ok .deleting))
  | reconciled {set : Resource} {churn : Churn} (updated : Bool)
      (found : before.object? .set key = some set) (live : set.isDeleting = false)
      (rebuilt : cache.rebuild set.name (before.selected set) prune = (churn, cache'))
      (refreshes : Refreshes key (before.labelled set.name).length set before after) :
      QuietEnds prune key before after cache cache' (ClusterSet.churnEvents set.name churn prune)
        (.result (.ok (.reconciled (before.labelled set.name).length churn updated)))
  /-- The time of the condition would lie beyond the calendar. -/
  | aborted {set : Resource} {told : List Event} (found : before.object? .set key = some set)
      (live : set.isDeleting = false) (last : Outlasted (before.labelled set.name).length set) :
      QuietEnds prune key before after cache cache' told .aborted

/-- Reads before a reconciliation make no difference. -/
theorem QuietEnds.before {prune : Bool} {key : Key} {s s' s'' : MemoryStore}
    {cache cache' : Membership} {told : List Event}
    {ending : Hub.Ending (Except StoreError SyncOutcome)}
    (ends : QuietEnds prune key s' s'' cache cache' told ending) (same : Inspected s s') :
    QuietEnds prune key s s'' cache cache' told ending := by
  have hobject := same.consulted.object? .set key
  have hlabelled := labelled_of_consulted same.consulted
  cases ends with
  | missing gone same' kept => exact .missing (hobject.symm.trans gone) (same.trans same') kept
  | deleting found marked same' kept =>
    exact .deleting (hobject.symm.trans found) marked (same.trans same') kept
  | @reconciled set churn updated found live rebuilt refreshes =>
    rw [selected_of_consulted same.consulted] at rebuilt
    rw [hlabelled] at refreshes ⊢
    exact .reconciled updated (hobject.symm.trans found) live rebuilt (refreshes.before same)
  | aborted found live last =>
    rw [hlabelled] at last
    exact .aborted (hobject.symm.trans found) live last

section Reconcile

variable {h h' : Hub MemoryStore} {key : Key} {set : Resource} {n : Nat} {prune : Bool}
variable {policy : RetryPolicy} {deadline : Option Moment} {calls : List Call} {churn : Churn}
variable {ending : Hub.Ending (Except StoreError SyncOutcome)}

/-- Publishing, with its result passed on. -/
theorem publishThen_quiet {now : Instant} (hs : h.store.Sound) (hf : h.store.Faultless)
    (found : h.store.object? .set key = some set)
    (run : Runs (publishThen key n now policy deadline churn) h calls ending h') :
    (∃ counts, h' = { h with store := h'.store, counts := counts }) ∧
      ((∃ updated, ending = .result (.ok (.reconciled n churn updated)) ∧
          Refreshes key n set h.store h'.store) ∨
        (ending = .aborted ∧ Outlasted n set)) := by
  cases run.of_bind with
  | aborted update =>
    obtain ⟨hsame, ⟨result, heq, -⟩ | ⟨-, hlast⟩⟩ := publishing_quiet hs hf found update
    · cases heq
    · exact ⟨hsame, .inr ⟨rfl, hlast⟩⟩
  | stuck update =>
    obtain ⟨-, ⟨result, heq, -⟩ | ⟨heq, -⟩⟩ := publishing_quiet hs hf found update
    · cases heq
    · cases heq
  | both update rest =>
    obtain ⟨hsame, ⟨result, heq, hrefreshes⟩ | ⟨heq, -⟩⟩ := publishing_quiet hs hf found update
    · cases heq
      obtain ⟨-, rfl, rfl⟩ := rest.of_done
      exact ⟨hsame, .inl ⟨_, rfl, hrefreshes⟩⟩
    · cases heq

/-- After the rebuild of the cache the churn is told and the status is
published. -/
theorem afterRebuild_quiet (hs : h.store.Sound) (hf : h.store.Faultless)
    (found : h.store.object? .set key = some set)
    (run : Runs (afterRebuild prune policy deadline key set n churn) h calls ending h') :
    h.Still h' ∧ h'.cache = h.cache ∧
      h'.events = h.events ++ ClusterSet.churnEvents set.name churn prune ∧
      ((∃ updated, ending = .result (.ok (.reconciled n churn updated)) ∧
          Refreshes key n set h.store h'.store) ∨
        (ending = .aborted ∧ Outlasted n set)) := by
  obtain ⟨now, later, -, run⟩ := run.of_afterRebuild
  let mid : Hub MemoryStore :=
    { h with
      events := h.events ++ ClusterSet.churnEvents set.name churn prune
      calendar := now }
  obtain ⟨⟨counts, hsame⟩, hends⟩ := publishThen_quiet (h := mid) hs hf found run
  refine ⟨?_, ?_, ?_, hends⟩
  · rw [hsame]
    exact ⟨rfl, rfl, rfl, rfl, rfl⟩
  · rw [hsame]
  · rw [hsame]

/-- **A live set** is brought up to date with the members that are listed. -/
theorem listThen_quiet (hs : h.store.Sound) (hf : h.store.Faultless)
    (found : h.store.object? .set key = some set) (live : set.isDeleting = false)
    (run : Runs (listThen prune policy deadline key set) h calls ending h') :
    h.Still h' ∧ ∃ told, h'.events = h.events ++ told ∧
      QuietEnds prune key h.store h'.store h.cache h'.cache told ending := by
  obtain ⟨later, -, run⟩ := run.of_list
  obtain ⟨hlist, hseen⟩ := hf.list hs .member
  rw [hlist] at run
  obtain ⟨churn, mid, later, answers, -, run⟩ := run.of_call
  obtain ⟨rfl, rfl⟩ := answers.eq (fun _ heq => nomatch heq) (fun heq => nomatch heq)
  let rebuilt := h.cache.rebuild set.name (h.store.selected set) prune
  let mid : Hub MemoryStore := { h with store := (h.store.list .member).2, cache := rebuilt.2 }
  change Runs (afterRebuild prune policy deadline key set (h.store.selected set).length rebuilt.1)
    mid _ ending h' at run
  have hfound : mid.store.object? .set key = some set := (hseen.consulted.object? _ _).trans found
  obtain ⟨hstill, hcache, hevents, hends⟩ := afterRebuild_quiet (h := mid)
    (hseen.consulted.sound hs) (hseen.consulted.faultless hf) hfound run
  have hmid : h.Still mid := ⟨rfl, rfl, rfl, rfl, rfl⟩
  refine ⟨hmid.trans hstill, _, hevents, ?_⟩
  rw [length_selected] at hends
  obtain ⟨updated, rfl, hrefreshes⟩ | ⟨rfl, hlast⟩ := hends
  · exact .reconciled updated found live (Prod.ext rfl hcache.symm) (hrefreshes.before hseen)
  · exact .aborted found live hlast

/-- **Bringing the set of a key up to date** where nothing fails. -/
theorem bringUpToDate_quiet (hs : h.store.Sound) (hf : h.store.Faultless) (hns : key.ns = none)
    (run : Runs (ClusterSet.bringUpToDate prune policy deadline key) h calls ending h') :
    h.Still h' ∧ ∃ told, h'.events = h.events ++ told ∧
      QuietEnds prune key h.store h'.store h.cache h'.cache told ending := by
  rw [bringUpToDate_eq hns] at run
  obtain ⟨later, -, run⟩ := run.of_get
  obtain ⟨hget, hseen⟩ := hf.get hs .set key
  rw [hget] at run
  cases hobject : h.store.object? .set key with
  | none =>
    rw [hobject] at run
    obtain ⟨-, rfl, rfl⟩ := run.of_done
    exact ⟨⟨rfl, rfl, rfl, rfl, rfl⟩, [], (List.append_nil _).symm, .missing hobject hseen rfl⟩
  | some set =>
    rw [hobject, afterLookup] at run
    split at run
    · rename_i hmarked
      obtain ⟨-, rfl, rfl⟩ := run.of_done
      exact ⟨⟨rfl, rfl, rfl, rfl, rfl⟩, [], (List.append_nil _).symm,
        .deleting hobject hmarked hseen rfl⟩
    · rename_i hlive
      rw [Bool.not_eq_true] at hlive
      let mid : Hub MemoryStore := { h with store := (h.store.get .set key).2 }
      have hfound : mid.store.object? .set key = some set :=
        (hseen.consulted.object? _ _).trans hobject
      obtain ⟨hstill, told, hevents, hends⟩ := listThen_quiet (h := mid)
        (hseen.consulted.sound hs) (hseen.consulted.faultless hf) hfound hlive run
      have hmid : h.Still mid := ⟨rfl, rfl, rfl, rfl, rfl⟩
      exact ⟨hmid.trans hstill, told, hevents, hends.before hseen⟩

/-- **Reconciling the set of a key** where nothing fails. -/
theorem reconcile_quiet (hs : h.store.Sound) (hf : h.store.Faultless) (hns : key.ns = none)
    (run : Runs (ClusterSet.reconcile prune policy deadline key) h calls ending h') :
    h.Still h' ∧ ∃ told, h'.events = h.events ++ told ∧
      QuietEnds prune key h.store h'.store h.cache h'.cache told ending := by
  obtain ⟨a, mid, later, answers, -, run⟩ := run.of_call
  obtain ⟨-, rfl⟩ := answers.eq (fun _ heq => nomatch heq) (fun heq => nomatch heq)
  let mid : Hub MemoryStore := { h with counts := h.counts.bump .syncs }
  have hmid : h.Still mid := ⟨rfl, rfl, rfl, rfl, rfl⟩
  cases run.of_bind with
  | aborted sync =>
    obtain ⟨hstill, hends⟩ := bringUpToDate_quiet (h := mid) hs hf hns sync
    exact ⟨hmid.trans hstill, hends⟩
  | stuck sync =>
    obtain ⟨-, told, -, hends⟩ := bringUpToDate_quiet (h := mid) hs hf hns sync
    cases hends
  | @both result _ _ after _ _ sync rest =>
    obtain ⟨hstill, told, hevents, hends⟩ := bringUpToDate_quiet (h := mid) hs hf hns sync
    obtain ⟨a, mid', later, answers, -, rest⟩ := rest.of_call
    obtain ⟨-, rfl⟩ := answers.eq (fun _ heq => nomatch heq) (fun heq => nomatch heq)
    cases result with
    | error e => cases hends
    | ok outcome =>
      obtain ⟨-, rfl, rfl⟩ := rest.of_done
      have hcounted : after.Still { after with counts := after.counts.bump .syncLatency } :=
        ⟨rfl, rfl, rfl, rfl, rfl⟩
      exact ⟨(hmid.trans hstill).trans hcounted, told, hevents, hends⟩

end Reconcile

end ClusterFleet
