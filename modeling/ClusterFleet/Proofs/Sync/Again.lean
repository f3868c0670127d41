import ClusterFleet.Proofs.Hub.Rebuild
import ClusterFleet.Proofs.Sync.Changes
import ClusterFleet.Proofs.Sync.Undisturbed
import ClusterFleet.Proofs.Update.Repeat

/-!
# Sync — reconciling again

A reconciliation that ended well leaves its hub at rest (`AtRest`): there is
no such set, or it is marked for deletion, or it tells how many members are
stored, and a rebuild for them finds them all in the cache. This says
nothing of faults or of requests, so it lasts as long as nobody writes
(`AtRest.untouched`). Where the hub is at rest a reconciliation is silent: it
reads, and that is all (`AtRest.silent`).
-/

namespace ClusterFleet

open MemoryStore StatusUpdate Program

/-- What a reconciliation ends in when it is done again, by what it ended in
before: those who left are found again, unless they were dropped. -/
def SyncOutcome.again (prune : Bool) : SyncOutcome → SyncOutcome
  | .missing => .missing
  | .deleting => .deleting
  | .reconciled n churn _ => .reconciled n ⟨[], if prune then [] else churn.left⟩ false

/-- **A hub at rest** about the set of a key, with what a reconciliation would
find. -/
inductive AtRest (prune : Bool) (key : Key) (h : Hub MemoryStore) : SyncOutcome → Prop
  | missing (gone : h.store.object? .set key = none) : AtRest prune key h .missing
  | deleting {set : Resource} (found : h.store.object? .set key = some set)
      (marked : set.isDeleting = true) : AtRest prune key h .deleting
  /-- The set tells how many members it has, and a rebuild changes nothing. -/
  | upToDate {set : Resource} {left : List String} (found : h.store.object? .set key = some set)
      (live : set.isDeleting = false) (tells : Tells (h.store.labelled set.name).length set)
      (rebuilt : h.cache.rebuild set.name (h.store.selected set) prune = (⟨[], left⟩, h.cache))
      (untold : prune = true → left = []) :
      AtRest prune key h (.reconciled (h.store.labelled set.name).length ⟨[], left⟩ false)

/-- A store that was only read. -/
structure MemoryStore.OnlyRead (s s' : MemoryStore) : Prop where
  /-- Nothing is another but the record of requests. -/
  same : s' = { s with actions := s'.actions }
  /-- No status was asked to be written. -/
  asked : s'.writesAsked = s.writesAsked

/-- **Nothing was done but reading.** -/
structure Silent (h h' : Hub MemoryStore) : Prop where
  store : h.store.OnlyRead h'.store
  cache : h'.cache = h.cache
  events : h'.events = h.events

namespace MemoryStore.OnlyRead

variable {s s' s'' : MemoryStore}

theorem trans (first : OnlyRead s s') (second : OnlyRead s' s'') : OnlyRead s s'' := by
  refine ⟨?_, second.asked.trans first.asked⟩
  rw [second.same, first.same]

/-- A request that is no status write is noted. -/
theorem observe {verb : Verb} (read : verb ≠ .updateStatus) (kind : Kind) (key : Option Key)
    (s : MemoryStore) : OnlyRead s (s.observe verb kind key) :=
  ⟨rfl, (Inspected.observe read kind key s).writesAsked⟩

/-- A set was read, and all members. -/
theorem surveyed (key : Key) (s : MemoryStore) : OnlyRead s (s.surveyed key) :=
  (observe (by decide) .set (some key) s).trans (observe (by decide) .member none _)

end MemoryStore.OnlyRead

section Again

variable {h h' mid : Hub MemoryStore} {key : Key} {set : Resource} {n : ℕ} {prune : Bool}
variable {policy : RetryPolicy} {deadline : Option Moment} {calls : List Call} {churn : Churn}
variable {before after : MemoryStore} {outcome : SyncOutcome}

/-! ## Coming to rest -/

/-- A set that was brought up to date is there under its name, and the members
are those that were counted. -/
theorem Settled.stored (hs : before.Sound) (found : before.object? .set key = some set)
    (settled : Settled key set n before after) :
    ∃ set', after.object? .set key = some set' ∧ set'.name = set.name ∧ Tells n set' ∧
      set'.isDeleting = set.isDeleting ∧
      ∀ r, r ∈ after.labelled set.name ↔ r ∈ before.labelled set.name := by
  obtain ⟨set', hset', htells, hdeleting⟩ := settled.tells
  have hkey : set'.key = set.key :=
    (settled.later.sound.found hset').1.trans (hs.found found).1.symm
  have hmembers : ∀ key', after.object? .member key' = before.object? .member key' :=
    fun _ => settled.others nofun
  exact ⟨set', hset', congrArg Key.name hkey, htells, hdeleting,
    fun _ => mem_labelled_congr hs settled.later.sound hmembers⟩

/-- **A hub comes to rest** when the cache was rebuilt for a set and the status
of the set was brought up to date. -/
theorem AtRest.of_settled (sound : h.store.Sound) (cached : h.cache.Sound)
    (found : h.store.object? .set key = some set) (live : set.isDeleting = false)
    (rebuilt : h.cache.rebuild set.name (h.store.selected set) prune = (churn, h'.cache))
    (settled : Settled key set (h.store.labelled set.name).length h.store h'.store) :
    AtRest prune key h' (.reconciled (h.store.labelled set.name).length
      ⟨[], if prune then [] else churn.left⟩ false) := by
  obtain ⟨set', hset', hname, htells, hdeleting, hlabelled⟩ := settled.stored sound found
  have hcount : (h'.store.labelled set'.name).length = (h.store.labelled set.name).length := by
    rw [hname]
    exact length_labelled_eq sound settled.later.sound hlabelled
  -- the store selects the same members as before, and the cache has them all
  have hselected (member : String) :
      member ∈ h'.store.selected set' ↔ member ∈ h.store.selected set :=
    mem_selected_congr hname hlabelled
  have hagain : (h.cache.rebuild set.name (h.store.selected set) prune).2.rebuild set.name
      (h'.store.selected set') prune = _ := cached.rebuild_again hselected
  rw [rebuilt, ← hname] at hagain
  rw [← hcount] at htells ⊢
  exact .upToDate hset' (hdeleting.trans live) htells hagain fun hprune => if_pos hprune

/-- **A reconciliation that ended well comes to rest.** -/
theorem atRest_of_reconciled (sound : h.store.Sound) (cached : h.cache.Sound)
    (ending : Hub.Ending (Except StoreError SyncOutcome)) (ok : ending = .result (.ok outcome))
    (run : Runs (ClusterSet.reconcile prune policy deadline key) h calls ending h') :
    h'.store.Sound ∧ AtRest prune key h' (outcome.again prune) := by
  obtain ⟨told, -, course⟩ := reconcile_course sound run
  generalize listsMembers calls = listed at course
  have hread : Consulted h.store (h.store.observe .get .set (some key)) := .observe _ _ _ _
  cases course with
  | misplaced => cases ok
  | unread => cases ok
  | missing gone read =>
    cases ok
    rw [← hread.object?, ← read] at gone
    exact ⟨read ▸ hread.sound sound, .missing gone⟩
  | deleting found marked read =>
    cases ok
    rw [← hread.object?, ← read] at found
    exact ⟨read ▸ hread.sound sound, .deleting found marked⟩
  | @published set churn mid mid' calls' result found live rebuilt surveyed update stored =>
    have hsame : Consulted h.store mid.store :=
      surveyed ▸ (unwritten_surveyed key h.store).consulted
    have hfound : mid.store.object? .set key = some set := (hsame.object? .set key).trans found
    -- whatever conflicts the update met, it has settled the set if it ended well
    have hpublished :=
      publishing_ends (hsame.sound sound) hfound (run_ends (hsame.sound sound) update)
    cases hpublished with
    | failed => cases ok
    | aborted => cases ok
    | settled result settled =>
      cases ok
      rw [← stored] at settled
      have hsettled := settled.before sound hsame
      exact ⟨settled.later.sound, .of_settled sound cached found live rebuilt hsettled⟩

/-- **A hub stays at rest** while nobody writes, and the cache is left
alone. -/
theorem AtRest.untouched (rest : AtRest prune key h outcome) (same : Consulted h.store mid.store)
    (kept : mid.cache = h.cache) : AtRest prune key mid outcome := by
  have hobject := same.object? .set key
  cases rest with
  | missing gone => exact .missing (hobject.trans gone)
  | deleting found marked => exact .deleting (hobject.trans found) marked
  | @upToDate set left found live tells rebuilt untold =>
    rw [← labelled_of_consulted same] at tells ⊢
    rw [← selected_of_consulted same, ← kept] at rebuilt
    exact .upToDate (hobject.trans found) live tells rebuilt untold

/-! ## At rest -/

variable {ending : Hub.Ending (Except StoreError SyncOutcome)}

/-- A read of the set alone is silent. -/
theorem silent_of_read (read : h'.store = h.store.observe .get .set (some key))
    (kept : h'.cache = h.cache) (told : h'.events = h.events ++ []) : Silent h h' := by
  refine ⟨?_, kept, told.trans (List.append_nil _)⟩
  rw [read]
  exact .observe (by decide) .set (some key) h.store

/-- Where nobody joined, and nobody that left is told of, there is nothing to
tell. -/
theorem churnEvents_of_untold {left : List String} (set : String)
    (untold : prune = true → left = []) :
    ClusterSet.churnEvents set ⟨[], left⟩ prune = [] := by
  rw [churnEvents_eq, if_pos rfl, List.nil_append, if_neg]
  rintro ⟨hprune, hleft⟩
  exact hleft (untold hprune)

/-- **Publishing what is told already** reads once. -/
theorem told_update {now : Instant} {result : Hub.Ending (Except StoreError UpdateResult)}
    (sound : h.store.Sound) (reads : h.store.readFaults = [])
    (found : h.store.object? .set key = some set) (tells : Tells n set)
    (update : Runs (ofJob (publishing key n now policy deadline)) h calls result h') :
    result = .result (.ok ⟨set.conditions, false⟩) ∧
      h'.store = h.store.observe .get .set (some key) := by
  have hshows : ∀ d ∈ [ClusterSet.emptyCondition n now], d.Shows set.conditions := by
    intro d hd
    rw [List.mem_singleton.mp hd]
    exact shows_of_tells tells now
  obtain ⟨-, hresult, rfl⟩ := kept_of_runs sound reads found (applyAll_of_shows hshows) update
  exact ⟨hresult, rfl⟩

/-- **At rest a reconciliation is silent**, and ends in what it finds. -/
theorem AtRest.silent (rest : AtRest prune key h outcome) (sound : h.store.Sound)
    (reads : h.store.readFaults = []) (clusterWide : key.ns = none)
    (run : Runs (ClusterSet.reconcile prune policy deadline key) h calls ending h') :
    ending = .result (.ok outcome) ∧ Silent h h' := by
  obtain ⟨told, hevents, course⟩ := reconcile_course sound run
  generalize listsMembers calls = listed at course
  -- both tell what is stored under the key, so only the cases that agree are left
  cases course with
  | misplaced namespaced =>
    rw [clusterWide] at namespaced
    cases namespaced
  | unread faults => cases faults.symm.trans reads
  | missing gone read kept =>
    have hsilent := silent_of_read read kept hevents
    cases rest with
    | missing => exact ⟨rfl, hsilent⟩
    | deleting found => cases found.symm.trans gone
    | upToDate found => cases found.symm.trans gone
  | deleting found marked read kept =>
    have hsilent := silent_of_read read kept hevents
    cases rest with
    | missing gone => cases found.symm.trans gone
    | deleting => exact ⟨rfl, hsilent⟩
    | upToDate found' live =>
      obtain rfl := Option.some.inj (found.symm.trans found')
      cases marked.symm.trans live
  | @published set churn mid mid' calls' result found live rebuilt surveyed update stored =>
    cases rest with
    | missing gone => cases found.symm.trans gone
    | deleting found' marked =>
      obtain rfl := Option.some.inj (found.symm.trans found')
      cases marked.symm.trans live
    | upToDate found' _ tells rebuilt' untold =>
      obtain rfl := Option.some.inj (found.symm.trans found')
      obtain ⟨rfl, hcache⟩ := Prod.mk.inj (rebuilt.symm.trans rebuilt')
      have hread : h.store.OnlyRead mid.store := surveyed ▸ .surveyed key h.store
      have hsame : Consulted h.store mid.store :=
        surveyed ▸ (unwritten_surveyed key h.store).consulted
      have hreads : mid.store.readFaults = [] := surveyed ▸ reads
      -- the update finds the condition that it is to set
      obtain ⟨rfl, hstore⟩ := told_update (hsame.sound sound) hreads
        ((hsame.object? .set key).trans found) tells update
      refine ⟨rfl, ?_, hcache, ?_⟩
      · rw [stored, hstore]
        exact hread.trans (.observe (by decide) .set (some key) mid.store)
      · rw [hevents, churnEvents_of_untold set.name untold, List.append_nil]

end Again

/-! ## The second time -/

/-- **Reconciling again is silent.** A reconciliation has ended well, whatever
conflicts it met, however old the cache was, and whether or not it pruned. Nobody
has written since, and the cache was left alone. Then the same reconciliation,
where no fault meets its reads, ends as before: with the same number of
members, nobody who joined, nothing written, and those who left before if they
were not dropped. It asks for no write, leaves store and cache as they are, and
tells nothing. -/
theorem resync_is_silent {h h' mid h'' : Hub MemoryStore} {prune : Bool} {key : Key}
    {policy policy' : RetryPolicy} {deadline deadline' : Option Moment} {calls calls' : List Call}
    {outcome : SyncOutcome} {ending : Hub.Ending (Except StoreError SyncOutcome)}
    (sound : h.store.Sound) (cached : h.cache.Sound) (clusterWide : key.ns = none)
    (first : Runs (ClusterSet.reconcile prune policy deadline key) h calls (.result (.ok outcome))
      h')
    (untouched : Unwritten h'.store mid.store) (kept : mid.cache = h'.cache)
    (faultless : mid.store.readFaults = [])
    (second : Runs (ClusterSet.reconcile prune policy' deadline' key) mid calls' ending h'') :
    ending = .result (.ok (outcome.again prune)) ∧ Silent mid h'' := by
  obtain ⟨hsound, hrest⟩ := atRest_of_reconciled sound cached _ rfl first
  have hmid : mid.store.Sound := untouched.consulted.sound hsound
  exact (hrest.untouched untouched.consulted kept).silent hmid faultless clusterWide second

/-- A set whose first write is lost, with a member that is new and one that
the cache still has: without pruning, the second reconciliation finds the same
one left, and is silent. -/
theorem resync_is_silent_contended :
    let sync := ClusterSet.reconcile false .standard none (.cluster "a")
    ∃ calls h' calls' h'',
      Runs sync (lagging (staffed.plantConflicts 1)) calls
        (.result (.ok (.reconciled 1 ⟨["m"], ["n"]⟩ true))) h' ∧
      Runs sync h' calls' (.result (.ok (.reconciled 1 ⟨[], ["n"]⟩ false))) h'' ∧
      Silent h' h'' ∧ h'.store.writesAsked.length = 2 := by
  intro sync
  let h := lagging (staffed.plantConflicts 1)
  have hsound : h.store.Sound := ⟨sound_staffed.written, sound_staffed.nodup⟩
  have hcached : h.cache.Sound := List.pairwise_singleton _ _
  obtain ⟨calls, first⟩ : ∃ calls, Runs sync h calls
      (.result (.ok (.reconciled 1 ⟨["m"], ["n"]⟩ true))) (Hub.runAlone sync h).2 :=
    Runs.of_result (by decide +kernel)
  obtain ⟨calls', second⟩ := Runs.of_runAlone sync (Hub.runAlone sync h).2
  obtain ⟨hending, hsilent⟩ := resync_is_silent hsound hcached rfl first (.refl _) rfl
    (by decide +kernel) second
  rw [hending] at second
  exact ⟨calls, _, calls', _, first, second, hsilent, by decide +kernel⟩

end ClusterFleet
