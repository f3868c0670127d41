import ClusterFleet.Proofs.Hub.Churn
import ClusterFleet.Proofs.Sync.Course
import ClusterFleet.Proofs.Sync.Quiet

/-!
# Sync — a reconciliation that nothing disturbs

Where no fault is planted and nobody interferes, a reconciliation of a set
is known to its end. A set that is not there or is marked for deletion is
left alone, with all the rest (`LeftAlone`). A live one gets the condition
that says how many members it has, by one write or by none; its members are
under it in the cache, the churn is told, and nothing else changes
(`BroughtUpToDate`). `undisturbed_reconciliation` says so from store, cache and key.
-/

namespace ClusterFleet

open MemoryStore StatusUpdate Program

/-! ## The status -/

section Status

variable {key : Key} {set : Resource} {n : ℕ} {now : Instant} {policy : RetryPolicy}
variable {deadline : Option Moment} {mid mid' : Hub MemoryStore} {calls : List Call}
variable {result : Hub.Ending (Except StoreError UpdateResult)}

/-- **What publishing does undisturbed**: the first attempt decides. -/
inductive Publishes (key : Key) (set : Resource) (n : ℕ) (now : Instant) (s s' : MemoryStore) :
    Hub.Ending (Except StoreError UpdateResult) → Prop
  /-- The status was right already. -/
  | right (shown : Condition.set (ClusterSet.emptyCondition n now) set.conditions =
        some set.conditions)
      (after : s' = s.observe .get .set (some key)) :
      Publishes key set n now s s' (.result (.ok ⟨set.conditions, false⟩))
  | written {conditions : List Condition}
      (changes : Condition.set (ClusterSet.emptyCondition n now) set.conditions = some conditions)
      (changed : conditions ≠ set.conditions)
      (after : s' = s.commit .set key { set with conditions := conditions }) :
      Publishes key set n now s s' (.result (.ok ⟨conditions, true⟩))
  /-- A time would lie beyond the calendar. -/
  | overflows (beyond : Condition.set (ClusterSet.emptyCondition n now) set.conditions = none) :
      Publishes key set n now s s' .aborted

/-- **Publishing undisturbed**: of all that an attempt can do, it finds the
set, and no fault meets it. -/
theorem publishes_undisturbed (hs : mid.store.Sound) (hf : mid.store.Faultless)
    (found : mid.store.object? .set key = some set)
    (update : Runs (ofJob (publishing key n now policy deadline)) mid calls result mid') :
    Publishes key set n now mid.store mid'.store result := by
  have happlies {applied : Except Refusal (List Condition)}
      (h : Mutation.applyAll [Mutation.set (ClusterSet.emptyCondition n now)] set.conditions =
        applied) :
      (∃ cs, Condition.set (ClusterSet.emptyCondition n now) set.conditions = some cs ∧
        applied = .ok cs) ∨
      (Condition.set (ClusterSet.emptyCondition n now) set.conditions = none ∧
        applied = .error .beyondCalendar) := by
    rw [applyAll_set] at h
    cases hset : Condition.set (ClusterSet.emptyCondition n now) set.conditions with
    | some cs =>
      rw [hset] at h
      exact .inl ⟨cs, rfl, h.symm⟩
    | none =>
      rw [hset] at h
      exact .inr ⟨rfl, h.symm⟩
  -- a `set` never refuses, and the faults are ruled out by `hf`
  cases (attempt_ends hs update).tries hf.reads found with
  | refused refuses =>
    obtain ⟨cs, -, heq⟩ | ⟨-, heq⟩ := happlies refuses
    · cases heq
    · cases heq
  | aborted beyond =>
    obtain ⟨cs, -, heq⟩ | ⟨hbeyond, -⟩ := happlies beyond
    · cases heq
    · exact .overflows hbeyond
  | kept leaves after =>
    obtain ⟨cs, hset, heq⟩ | ⟨-, heq⟩ := happlies leaves
    · cases heq
      exact .right hset after
    · cases heq
  | written tries clear after =>
    obtain ⟨cs, hset, heq⟩ | ⟨-, heq⟩ := happlies tries.applies
    · cases heq
      exact .written hset tries.changed after
    · cases heq
  | rejected tries faults => cases faults.symm.trans hf.writes
  | lost tries faults => cases faults.symm.trans hf.writes

end Status

/-! ## Cache and events -/

/-- **A rebuild leaves the others where they were**: all but the members that
it selects and, when pruning, those that it tells to have left. -/
theorem Membership.Sound.get?_rebuild_of_aside {c c' : Membership} {set member : String}
    {selected : List String} {prune : Bool} {churn : Churn} (hc : c.Sound)
    (rebuilt : c.rebuild set selected prune = (churn, c')) (unselected : member ∉ selected)
    (stays : prune = true → member ∉ churn.left) : c'.get? member = c.get? member := by
  have hget : (c.rebuild set selected prune).2.get? member = _ := hc.get?_rebuild member
  have hleft : member ∈ (c.rebuild set selected prune).1.left ↔ _ := hc.mem_left
  rw [rebuilt] at hget hleft
  rw [hget, if_neg unselected, if_neg]
  rintro ⟨hprune, hunder⟩
  exact stays hprune (hleft.mpr ⟨hunder, unselected⟩)

/-- The churn is told in at most two events. -/
theorem churnEvents_eq (set : String) (churn : Churn) (prune : Bool) :
    ClusterSet.churnEvents set churn prune =
      (if churn.joined = [] then [] else [ClusterSet.joinedEvent set churn.joined]) ++
      if prune = true ∧ churn.left ≠ [] then [ClusterSet.leftEvent set churn.left] else [] := by
  simp [ClusterSet.churnEvents, List.isEmpty_iff]

/-! ## The whole reconciliation -/

/-- **Nothing was done**: the set was read, and all is as it was. -/
structure LeftAlone (h h' : Hub MemoryStore) (calls : List Call) : Prop where
  unlisted : listsMembers calls = false
  store : Unwritten h.store h'.store
  cache : h'.cache = h.cache
  events : h'.events = h.events

/-- **A live set was brought up to date** with so many members, and nothing
else changed. -/
structure BroughtUpToDate (prune : Bool) (key : Key) (set : Resource) (n : ℕ) (churn : Churn)
    (updated : Bool) (h h' : Hub MemoryStore) : Prop where
  /-- The set says how many members it has. Its other conditions stand where
  they stood, and of its metadata only the version may be another. -/
  status : ∃ set', h'.store.object? .set key = some set' ∧ Tells n set' ∧ Refreshed n set set' ∧
    (updated = true ↔ set'.conditions ≠ set.conditions)
  store : WrittenIf .set key h.store h'.store updated
  others : ∀ {kind : Kind} {key' : Key}, (Kind.set, key) ≠ (kind, key') →
    h'.store.object? kind key' = h.store.object? kind key'
  /-- A status was asked to be written once, or not at all. -/
  asked : h'.store.writesAsked.length = h.store.writesAsked.length + updated.toNat
  rebuilt : h.cache.rebuild set.name (h.store.selected set) prune = (churn, h'.cache)
  aside : ∀ {member : String}, member ∉ h.store.selected set →
    (prune = true → member ∉ churn.left) → h'.cache.get? member = h.cache.get? member
  events : h'.events = h.events ++
    (if churn.joined = [] then [] else [ClusterSet.joinedEvent set.name churn.joined]) ++
    if prune = true ∧ churn.left ≠ [] then [ClusterSet.leftEvent set.name churn.left] else []

section Writes

variable {s : MemoryStore} {key : Key} {set : Resource} {n : ℕ} {now : Instant}

theorem writesAsked_surveyed (key : Key) (s : MemoryStore) :
    (s.surveyed key).writesAsked = s.writesAsked := by
  simp [writesAsked, surveyed, observe]

theorem length_writesAsked_commit (kind : Kind) (key : Key) (r : Resource) (s : MemoryStore) :
    (s.commit kind key r).writesAsked.length = s.writesAsked.length + 1 := by
  simp [writesAsked, commit, attemptRequests]

/-- Publishing refreshes the set, by one write or by none. -/
theorem Publishes.refreshes {s' : MemoryStore} {result : UpdateResult} (hs : s.Sound)
    (found : s.object? .set key = some set)
    (publishes : Publishes key set n now s s' (.result (.ok result))) :
    (∃ set', s'.object? .set key = some set' ∧ Refreshed n set set' ∧
      (result.updated = true ↔ set'.conditions ≠ set.conditions)) ∧
    s'.writesAsked.length = s.writesAsked.length + result.updated.toNat := by
  have hplace {cs : List Condition}
      (h : Condition.set (ClusterSet.emptyCondition n now) set.conditions = some cs) :
      ∃ t, cs = Condition.place (ClusterSet.emptyCondition n t) set.conditions := by
    obtain ⟨t, ht⟩ := Condition.set_eq_place h
    rw [emptyCondition_at] at ht
    exact ⟨t, ht⟩
  cases publishes with
  | right shown after =>
    have hobject := (Consulted.observe .get .set (some key) s).object? .set key
    have hnot : false = true ↔ set.conditions ≠ set.conditions := by simp
    rw [after]
    refine ⟨⟨set, hobject.trans found, ⟨⟨_, rfl⟩, hplace shown⟩, hnot⟩, ?_⟩
    simp [writesAsked, observe]
  | @written cs changes changed after =>
    have hkey : set.key = key := (hs.found found).1
    let written : Resource := { set with conditions := cs }
    have hobject : (s.commit .set key written).object? .set key =
        some (written.atVersion (s.versions + 1)) := by
      rw [object?_commit, ← hkey]
      exact object?_hold_self .set written s
    rw [after]
    refine ⟨⟨_, hobject, ⟨⟨_, rfl⟩, hplace changes⟩, ?_⟩, ?_⟩
    · exact iff_of_true rfl changed
    · rw [length_writesAsked_commit]
      rfl

end Writes

/-- Whether or not an object was written, the others were not. -/
theorem WrittenIf.others {kind kind' : Kind} {key key' : Key} {s s' : MemoryStore} {told : Bool}
    (h : WrittenIf kind key s s' told) (hne : (kind, key) ≠ (kind', key')) :
    s'.object? kind' key' = s.object? kind' key' := by
  cases told with
  | true => exact WrittenOnce.others h hne
  | false => exact (Unwritten.consulted h).object? kind' key'

/-- Publishing ends well, if the time of the condition is in the calendar. -/
theorem Publishes.ends {s s' : MemoryStore} {key : Key} {set : Resource} {n : ℕ} {now : Instant}
    {ending : Hub.Ending (Except StoreError UpdateResult)}
    (publishes : Publishes key set n now s s' ending)
    (fits : Condition.set (ClusterSet.emptyCondition n now) set.conditions ≠ none) :
    ∃ result, ending = .result (.ok result) := by
  cases publishes with
  | right => exact ⟨_, rfl⟩
  | written => exact ⟨_, rfl⟩
  | overflows beyond => exact absurd beyond fits

/-- **A live set is brought up to date** by a reconciliation that came to
publish: each part of the hub is as the step that touched it last has left
it. -/
theorem published_broughtUpToDate {h h' mid mid' : Hub MemoryStore} {prune : Bool}
    {policy : RetryPolicy} {deadline : Option Moment} {key : Key} {set : Resource} {n : ℕ}
    {churn : Churn} {calls : List Call} {ending : Hub.Ending (Except StoreError UpdateResult)}
    (sound : h.store.Sound) (faultless : h.store.Faultless) (cached : h.cache.Sound)
    (found : h.store.object? .set key = some set)
    (fits : Condition.set (ClusterSet.emptyCondition n h'.calendar) set.conditions ≠ none)
    (rebuilt : h.cache.rebuild set.name (h.store.selected set) prune = (churn, h'.cache))
    (told : h'.events = h.events ++ ClusterSet.churnEvents set.name churn prune)
    (surveyed : mid.store = h.store.surveyed key)
    (update : Runs (ofJob (publishing key n h'.calendar policy deadline)) mid calls ending mid')
    (stored : h'.store = mid'.store) :
    ∃ updated, passOn n churn ending = .result (.ok (.reconciled n churn updated)) ∧
      BroughtUpToDate prune key set n churn updated h h' := by
  have hsame : Unwritten h.store mid.store := surveyed ▸ unwritten_surveyed key h.store
  have hsound := hsame.consulted.sound sound
  have hfound : mid.store.object? .set key = some set :=
    (hsame.consulted.object? .set key).trans found
  have hpublishes :=
    publishes_undisturbed hsound (hsame.consulted.faultless faultless) hfound update
  obtain ⟨result, rfl⟩ := hpublishes.ends fits
  have hwritten : WrittenIf .set key h.store mid'.store result.updated :=
    (ofJob_writtenIf hsound update).before hsame
  obtain ⟨⟨set', hstored, hrefreshed, hupdated⟩, hasked⟩ := hpublishes.refreshes hsound hfound
  -- the survey came first and wrote nothing, so all is told from `h`
  rw [← stored] at hwritten hstored hasked
  rw [surveyed, writesAsked_surveyed] at hasked
  rw [churnEvents_eq, ← List.append_assoc] at told
  refine ⟨result.updated, rfl, ?_⟩
  exact {
    status := ⟨set', hstored, hrefreshed.tells, hrefreshed, hupdated⟩
    store := hwritten
    others := fun hne => WrittenIf.others hwritten hne
    asked := hasked
    rebuilt := rebuilt
    aside := fun hnot hstays => cached.get?_rebuild_of_aside rebuilt hnot hstays
    events := told }

/-- **An undisturbed reconciliation** finds no set, or one marked for
deletion, and leaves everything alone; or else it brings the set up to date,
unless the time of its condition would lie beyond the calendar. The time is
what the calendar showed when it was looked at, and shows still at the end. -/
theorem undisturbed_reconciliation {h h' : Hub MemoryStore} {prune : Bool} {policy : RetryPolicy}
    {deadline : Option Moment} {key : Key} {calls : List Call}
    {ending : Hub.Ending (Except StoreError SyncOutcome)} (sound : h.store.Sound)
    (faultless : h.store.Faultless) (cached : h.cache.Sound) (clusterWide : key.ns = none)
    (run : Runs (ClusterSet.reconcile prune policy deadline key) h calls ending h') :
    (h.store.object? .set key = none →
      ending = .result (.ok .missing) ∧ LeftAlone h h' calls) ∧
    ∀ set, h.store.object? .set key = some set →
      (set.isDeleting = true → ending = .result (.ok .deleting) ∧ LeftAlone h h' calls) ∧
      (set.isDeleting = false →
        Condition.set (ClusterSet.emptyCondition (h.store.labelled set.name).length h'.calendar)
          set.conditions ≠ none →
        ∃ churn updated,
          ending = .result (.ok (.reconciled (h.store.labelled set.name).length churn updated)) ∧
          BroughtUpToDate prune key set (h.store.labelled set.name).length churn updated h h') := by
  obtain ⟨told, hevents, course⟩ := reconcile_course sound run
  generalize hlists : listsMembers calls = listed at course
  have hnothing : told = [] → h'.events = h.events := by
    intro htold
    rw [hevents, htold, List.append_nil]
  -- by what stands under the key; the two other ways to end are ruled out by the hypotheses
  cases course with
  | misplaced namespaced =>
    rw [clusterWide] at namespaced
    cases namespaced
  | unread faults => cases faults.symm.trans faultless.reads
  | missing gone read kept =>
    have halone : LeftAlone h h' calls :=
      ⟨hlists, read ▸ Unwritten.observe _ _ _ _, kept, hnothing rfl⟩
    refine ⟨fun _ => ⟨rfl, halone⟩, fun set found => ?_⟩
    cases found.symm.trans gone
  | deleting found marked read kept =>
    have halone : LeftAlone h h' calls :=
      ⟨hlists, read ▸ Unwritten.observe _ _ _ _, kept, hnothing rfl⟩
    refine ⟨fun gone => ?_, fun set found' => ⟨fun _ => ⟨rfl, halone⟩, fun live => ?_⟩⟩
    · cases found.symm.trans gone
    · obtain rfl := Option.some.inj (found.symm.trans found')
      cases marked.symm.trans live
  | @published set churn mid mid' calls' result' found live rebuilt surveyed update stored =>
    refine ⟨fun gone => ?_, fun set' found' => ?_⟩
    · cases found.symm.trans gone
    obtain rfl := Option.some.inj (found.symm.trans found')
    refine ⟨fun marked => ?_, fun _ fits => ?_⟩
    · cases marked.symm.trans live
    obtain ⟨updated, hending, hdone⟩ := published_broughtUpToDate sound faultless cached found fits
      rebuilt hevents surveyed update stored
    exact ⟨churn, updated, hending, hdone⟩

/-- A set with a member, and another member that it has lost: one joins, one
leaves, and the status is written. -/
theorem undisturbed_reconciliation_of_one : ∃ calls h',
    Runs (ClusterSet.reconcile true .standard none (.cluster "a")) (lagging staffed) calls
      (.result (.ok (.reconciled 1 ⟨["m"], ["n"]⟩ true))) h' ∧
    h'.cache.entries = [("m", "a")] ∧
    h'.events = [⟨"ClusterSetMembersJoined", "ManagedClusters m joined ManagedClusterSet a", false⟩,
      ⟨"ClusterSetMembersLeft", "ManagedClusters n left ManagedClusterSet a", false⟩] := by
  let h := lagging staffed
  let program := ClusterSet.reconcile true .standard none (.cluster "a")
  have hcached : h.cache.Sound := List.pairwise_singleton _ _
  obtain ⟨set, hfound, hname, hnone, hlive, hrebuild⟩ : ∃ set : Resource,
      h.store.object? .set (.cluster "a") = some set ∧ set.name = "a" ∧ set.conditions = [] ∧
      set.isDeleting = false ∧ h.cache.rebuild "a" (h.store.selected set) true =
        (⟨["m"], ["n"]⟩, ⟨[("m", "a")]⟩) := ⟨_, rfl, by decide +kernel⟩
  have hone : (h.store.labelled "a").length = 1 := by decide +kernel
  have hfits (now : Instant) :
      Condition.set (ClusterSet.emptyCondition 1 now) set.conditions ≠ none := by
    rw [hnone]
    exact nofun
  obtain ⟨calls, run⟩ := Runs.of_runAlone program h
  obtain ⟨-, hsets⟩ := undisturbed_reconciliation sound_staffed ⟨rfl, rfl⟩ hcached rfl run
  have hreconciled := (hsets set hfound).2 hlive
  rw [hname, hone] at hreconciled
  obtain ⟨churn, updated, hending, hdone⟩ := hreconciled (hfits _)
  have hrebuilt := hdone.rebuilt
  rw [hname, hrebuild] at hrebuilt
  obtain ⟨rfl, hcache⟩ := Prod.mk.inj hrebuilt
  have hevents := hdone.events
  rw [hname, ClusterSet.joinedEvent_eq, ClusterSet.leftEvent_eq] at hevents
  obtain rfl : updated = true := by
    obtain ⟨set', -, ⟨c, hfind, -⟩, -, hupdated⟩ := hdone.status
    refine hupdated.mpr fun hsame => ?_
    rw [hsame, hnone] at hfind
    cases hfind
  rw [hending] at run
  refine ⟨calls, _, run, ?_, hevents⟩
  rw [← hcache]

end ClusterFleet
