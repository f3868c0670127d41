import ClusterFleet.Proofs.Queue.Room
import ClusterFleet.Proofs.Sync.Sweep

/-!
# Sync — a resync heals any state

Whatever statuses and cache a hub starts with, adding every set to an empty
queue and working the queue off brings all of it right, where nothing fails
and nobody interferes. A turn sweeps the key it takes (`Draining.turn`), so
a queue that is worked off sweeps its keys (`Draining.drained`); and a
resync puts the keys of all sets into the queue (`Ready.resynced`). The hub
is then ready for another resync, which writes no status.
-/

namespace ClusterFleet

open MemoryStore Program

/-- The keys of all sets, in their order. -/
def MemoryStore.setKeys (s : MemoryStore) : List Key :=
  (Key.sortBy Resource.key (s.objects .set)).map Resource.key

section Keys

variable {s s' : MemoryStore} {key : Key}

theorem perm_setKeys (s : MemoryStore) : s.setKeys.Perm ((s.objects .set).map Resource.key) :=
  (perm_sortBy Resource.key (s.objects .set)).map _

theorem mem_setKeys (hs : s.Sound) : key ∈ s.setKeys ↔ ∃ set, s.object? .set key = some set := by
  rw [(perm_setKeys s).mem_iff, List.mem_map]
  constructor
  · rintro ⟨set, hset, rfl⟩
    exact ⟨set, hs.mem_objects.mp hset⟩
  · rintro ⟨set, hset⟩
    exact ⟨set, hs.mem_of_found hset, (hs.found hset).1⟩

theorem nodup_setKeys (hs : s.Sound) : s.setKeys.Nodup :=
  (perm_setKeys s).nodup_iff.mpr (hs.nodup_objects .set)

theorem length_setKeys (s : MemoryStore) : s.setKeys.length = (s.objects .set).length := by
  rw [(perm_setKeys s).length_eq, List.length_map]

end Keys

/-- The status of the set under a key can be brought up to date: it is right,
or another one has its time within the calendar. -/
def MemoryStore.Timely (s : MemoryStore) (key : Key) : Prop :=
  ∀ set, s.object? .set key = some set → set.isDeleting = false →
    ¬Outlasted (s.labelled set.name).length set

/-- Where no condition has the last time of the calendar, every status can
be brought up to date. -/
theorem timely_of_conditions {s : MemoryStore} (hs : s.Sound)
    (h : ∀ set ∈ s.objects .set, ∀ c ∈ set.conditions, c.since.addMicrosecond.isSome = true)
    (key : Key) : s.Timely key := by
  intro set hset _ houtlasted
  obtain ⟨⟨c, hfind, hlast⟩, -⟩ := houtlasted
  have hsome := h set (hs.mem_of_found hset) c (List.mem_of_find?_eq_some hfind)
  rw [hlast] at hsome
  cases hsome

/-! ## Working the queue off -/

/-- A hub whose queue can be worked off: nothing fails, the work has no time
limit, and the waiting keys are those of sets that live in no namespace. -/
structure Draining (settings : Settings) (h : Hub MemoryStore) : Prop where
  sound : h.store.Sound
  faultless : h.store.Faultless
  members : h.store.ClusterScoped .member
  cached : h.cache.Sound
  untimed : settings.syncTimeout = none
  queue : h.queue.Sound
  opened : h.queue.closed = false
  cluster : ∀ key ∈ h.queue.order, key.ns = none
  timely : ∀ key ∈ h.queue.order, h.store.Timely key

/-- **Working off a queue**, turn by turn until it is empty, or until a turn
gives no result; with the number of turns. -/
inductive Drains (settings : Settings) : Hub MemoryStore → ℕ → Hub.Ending Unit → Hub MemoryStore → Prop
  | emptied {h : Hub MemoryStore} (empty : h.queue.order = []) : Drains settings h 0 (.result ()) h
  | turn {h mid h' : Hub MemoryStore} {calls : List Call} {worked : Bool} {n : ℕ}
      {ending : Hub.Ending Unit} (waits : h.queue.order ≠ [])
      (run : Runs (Runner.processNext settings) h calls (.result worked) mid)
      (rest : Drains settings mid n ending h') : Drains settings h (n + 1) ending h'
  | aborted {h h' : Hub MemoryStore} {calls : List Call} (waits : h.queue.order ≠ [])
      (run : Runs (Runner.processNext settings) h calls .aborted h') :
      Drains settings h 1 .aborted h'
  | stuck {h h' : Hub MemoryStore} {calls : List Call} (waits : h.queue.order ≠ [])
      (run : Runs (Runner.processNext settings) h calls .stuck h') : Drains settings h 1 .stuck h'

section Drain

variable {settings : Settings} {h h' : Hub MemoryStore} {key : Key} {keys rest : List Key}
variable {calls : List Call} {n : ℕ}

/-- What follows a reconciliation that did not fail lets go of the key. -/
theorem afterWork {outcome : SyncOutcome} {ending : Hub.Ending Bool}
    (run : Runs ((Runner.afterSync settings key (.ok outcome)).bind fun _ =>
      call (.release key) fun _ => done true) h calls ending h') :
    ending = .result true ∧ h'.store = h.store ∧ h'.cache = h.cache ∧
      h'.queue = h.queue.done key := by
  obtain ⟨_, settled, _, answers, -, run⟩ := Runs.of_call (c := .settled key) run
  obtain ⟨-, rfl⟩ := answers.eq (fun _ heq => nomatch heq) (fun heq => nomatch heq)
  obtain ⟨_, released, _, answers, -, run⟩ := Runs.of_call (c := .release key) run
  obtain ⟨-, rfl⟩ := answers.eq (fun _ heq => nomatch heq) (fun heq => nomatch heq)
  obtain ⟨-, rfl, rfl⟩ := run.of_done
  exact ⟨rfl, rfl, rfl, rfl⟩

/-- **A turn sweeps its key** and leaves no trace of it in the queue. -/
theorem Draining.turn {ending : Hub.Ending Bool} (hd : Draining settings h)
    (horder : h.queue.order = key :: rest)
    (run : Runs (Runner.processNext settings) h calls ending h') :
    ending = .result true ∧ Draining settings h' ∧
      Swept settings.prune [key] h.store h'.store h.cache h'.cache ∧
      h'.queue = h.queue.served key rest := by
  have hmem : key ∈ h.queue.order := horder ▸ List.mem_cons_self
  have hpop := WorkQueue.pop_of_order horder
  obtain ⟨taken, queue, htaken, run⟩ | ⟨queue, hclosed, -⟩ | ⟨queue, hwait, -⟩ := run.of_take
  rotate_left
  · cases hpop.symm.trans hclosed
  · cases hpop.symm.trans hwait
  cases hpop.symm.trans htaken
  let out := h.handOut key rest
  change Runs (Runner.withDeadline settings.syncTimeout (workOn settings key)) out _ ending h' at run
  rw [hd.untimed] at run
  have hquiet {ending : Hub.Ending (Except StoreError SyncOutcome)} {calls : List Call}
      {h' : Hub MemoryStore} (sync : Runs (ClusterSet.reconcile settings.prune settings.retry none key)
        out calls ending h') :=
    reconcile_quiet (h := out) hd.sound hd.faultless (hd.cluster key hmem) sync
  -- nothing fails and no time runs out, so only the work that comes to its end is left
  cases run.of_bind with
  | aborted sync =>
    obtain ⟨-, told, -, hends⟩ := hquiet sync
    cases hends with
    | aborted found live last => exact absurd last (hd.timely key hmem _ found live)
  | stuck sync =>
    obtain ⟨-, told, -, hends⟩ := hquiet sync
    cases hends
  | @both result _ _ mid _ _ sync after =>
    obtain ⟨hstill, told, -, hends⟩ := hquiet sync
    have hswept := Swept.of_ends hd.sound hd.faultless hd.members hd.cached hends
    cases result with
    | error e => cases hends
    | ok outcome =>
      obtain ⟨hending, hstore, hcache, hqueue⟩ := afterWork after
      have hserved : h'.queue = h.queue.served key rest := by
        rw [hqueue, hstill.queue]
        exact hd.queue.done_handedOut horder
      rw [← hstore, ← hcache] at hswept
      refine ⟨hending, ?_, hswept, hserved⟩
      -- the key does not wait a second time, so the others are all that is left to do
      have hnodup := hd.queue.nodup
      rw [horder, List.nodup_cons] at hnodup
      have hrest (k : Key) (hk : k ∈ h'.queue.order) : k ∈ h.queue.order ∧ k ≠ key := by
        rw [hserved] at hk
        exact ⟨horder ▸ List.mem_cons_of_mem _ hk, fun heq => hnodup.1 (heq ▸ hk)⟩
      refine ⟨hswept.sound, hswept.faultless, hswept.clusterScoped hd.members, hswept.cached,
        hd.untimed, ?_, ?_, fun k hk => hd.cluster k (hrest k hk).1, fun k hk set hset hlive => ?_⟩
      · rw [hserved]
        exact hd.queue.served horder
      · rw [hserved]
        exact hd.opened
      · -- the sets whose turn is still to come are as they were
        obtain ⟨hk, hne⟩ := hrest k hk
        rw [hswept.others fun hall => hne (List.mem_singleton.mp hall.2.1)] at hset
        rw [hswept.labelled]
        exact hd.timely k hk set hset hlive

/-- **A queue that is worked off** was swept, in as many turns as there were
keys, and is empty. -/
theorem Draining.drained {ending : Hub.Ending Unit} (hd : Draining settings h)
    (horder : h.queue.order = keys) (drains : Drains settings h n ending h') :
    ending = .result () ∧ n = keys.length ∧
      Swept settings.prune keys h.store h'.store h.cache h'.cache ∧ h'.queue.order = [] ∧
      h'.queue.Sound ∧ h'.queue.processing = h.queue.processing ∧
      h'.queue.capacity = h.queue.capacity ∧ h'.queue.closed = false := by
  -- on the keys that wait: a turn takes the first of them and adds none
  induction keys generalizing h n with
  | nil =>
    cases drains with
    | emptied => exact ⟨rfl, rfl, .of_inspected hd.sound hd.faultless hd.cached (.refl _), horder,
        hd.queue, rfl, rfl, hd.opened⟩
    | turn waits => exact absurd horder waits
    | aborted waits => exact absurd horder waits
    | stuck waits => exact absurd horder waits
  | cons key rest ih =>
    cases drains with
    | emptied empty => cases horder.symm.trans empty
    | aborted _ run => cases (hd.turn horder run).1
    | stuck _ run => cases (hd.turn horder run).1
    | turn _ run later =>
      obtain ⟨-, hd', hswept, hserved⟩ := hd.turn horder run
      have horder' : _ = rest := congrArg WorkQueue.order hserved
      obtain ⟨hending, hturns, hswept', hempty, hsound, hprocessing, hcapacity, hopen⟩ :=
        ih hd' horder' later
      rw [hserved] at hprocessing hcapacity
      exact ⟨hending, by rw [hturns, List.length_cons], hswept.trans hswept', hempty, hsound,
        hprocessing, hcapacity, hopen⟩

/-- **A queue can be worked off.** -/
theorem Draining.exists_drain (hd : Draining settings h) :
    ∃ n h', Drains settings h n (.result ()) h' := by
  generalize horder : h.queue.order = keys
  induction keys generalizing h with
  | nil => exact ⟨0, h, .emptied horder⟩
  | cons key rest ih =>
    obtain ⟨calls, run⟩ := Runs.of_runAlone (Runner.processNext settings) h
    obtain ⟨hending, hd', -, hserved⟩ := hd.turn horder run
    obtain ⟨n, h', drains⟩ := ih hd' (congrArg WorkQueue.order hserved)
    rw [hending] at run
    have hwaits : h.queue.order ≠ [] := by
      rw [horder]
      exact List.cons_ne_nil _ _
    exact ⟨n + 1, h', .turn hwaits run drains⟩

end Drain

/-! ## A resync -/

/-- **A hub that a resync can heal**: nothing fails, work has no time limit,
sets and members live in no namespace, and the queue is open, empty and has
room for all sets, none of which is being worked on. Of its statuses and its
cache nothing is asked but that no wrong status stands at the last time of
the calendar. -/
structure Ready (settings : Settings) (h : Hub MemoryStore) : Prop where
  sound : h.store.Sound
  faultless : h.store.Faultless
  sets : h.store.ClusterScoped .set
  members : h.store.ClusterScoped .member
  timely : ∀ key, h.store.Timely key
  cached : h.cache.Sound
  untimed : settings.syncTimeout = none
  queue : h.queue.Sound
  opened : h.queue.closed = false
  empty : h.queue.order = []
  idle : ∀ set ∈ h.store.objects .set, set.key ∉ h.queue.processing
  room : (h.store.objects .set).length ≤ h.queue.capacity

/-- **A hub that was healed**, with what it was before: each live set tells
how many members it has, and nothing else of it changed but its version; no
other object changed; and each member is cached under the set that its label
names, if this set is live. -/
structure Healed (h h' : Hub MemoryStore) : Prop where
  live : ∀ {key set}, h.store.object? .set key = some set → set.isDeleting = false →
    ∃ set', h'.store.object? .set key = some set' ∧ Tells (h.store.labelled set.name).length set' ∧
      Refreshed (h.store.labelled set.name).length set set'
  tombstones : ∀ {key set}, h.store.object? .set key = some set → set.isDeleting = true →
    h'.store.object? .set key = some set
  others : ∀ {kind key}, kind ≠ .set ∨ h.store.object? .set key = none →
    h'.store.object? kind key = h.store.object? kind key
  cached : ∀ member ∈ h.store.objects .member, ∀ set ∈ h.store.objects .set,
    set.isDeleting = false → member.clusterSet? = some set.name →
      h'.cache.get? member.name = some set.name

section Resync

variable {settings : Settings} {h h' mid : Hub MemoryStore} {calls : List Call} {n : ℕ}
variable {ending : Hub.Ending Unit}

/-- Keys are added one after another, and nothing else happens. -/
theorem Runs.of_added {keys : List Key}
    (run : Runs (each (fun key => ask (.add key)) keys) h calls ending h') :
    ending = .result () ∧
      h' = { h with queue := keys.foldl (fun q key => q.add key) h.queue } := by
  induction keys generalizing h calls with
  | nil =>
    obtain ⟨-, rfl, rfl⟩ := run.of_done
    exact ⟨rfl, rfl⟩
  | cons key rest ih =>
    obtain ⟨_, mid, _, answers, -, run⟩ := run.of_call
    obtain ⟨-, rfl⟩ := answers.eq (fun _ heq => nomatch heq) (fun heq => nomatch heq)
    exact ih run

/-- **A resync puts the keys of all sets into the queue**, which can then be
worked off. -/
theorem Ready.resynced (ready : Ready settings h) (run : Runs Runner.resync h calls ending mid) :
    ending = .result () ∧ Inspected h.store mid.store ∧ mid.cache = h.cache ∧
      h.queue.Lengthened mid.queue h.store.setKeys ∧ mid.queue.order = h.store.setKeys ∧
      Draining settings mid := by
  obtain ⟨hlist, hseen⟩ := ready.faultless.list ready.sound .set
  obtain ⟨later, -, run⟩ := Runs.of_list run
  rw [hlist] at run
  let seen : Hub MemoryStore := { h with store := (h.store.list .set).2 }
  change Runs (each (fun key => ask (.add key)) h.store.setKeys) seen later ending mid at run
  obtain ⟨hending, rfl⟩ := run.of_added
  have hkeys {key : Key} (hkey : key ∈ h.store.setKeys) :
      ∃ set ∈ h.store.objects .set, set.key = key :=
    List.mem_map.mp ((perm_setKeys h.store).mem_iff.mp hkey)
  -- the keys are distinct, nobody works on one of them, and there is room for all
  have hqueue : h.queue.Lengthened (h.store.setKeys.foldl (fun q key => q.add key) h.queue)
      h.store.setKeys := by
    refine ready.queue.addAll ready.opened (nodup_setKeys ready.sound) ?_ ?_ ?_
    · intro key _ hmem
      rw [ready.empty] at hmem
      cases hmem
    · intro key hkey
      obtain ⟨set, hset, rfl⟩ := hkeys hkey
      exact ready.idle set hset
    · rw [ready.empty, length_setKeys, List.length_nil, Nat.zero_add]
      exact ready.room
  have horder := hqueue.order
  rw [ready.empty, List.nil_append] at horder
  have hsame := hseen.consulted
  refine ⟨hending, hseen, rfl, hqueue, horder, hsame.sound ready.sound,
    hsame.faultless ready.faultless, ?_, ready.cached, ready.untimed, hqueue.sound,
    hqueue.closed.trans ready.opened, ?_, ?_⟩
  · intro member hmember
    rw [hsame.objects] at hmember
    exact ready.members member hmember
  · intro key hkey
    rw [horder] at hkey
    obtain ⟨set, hset, rfl⟩ := hkeys hkey
    exact ready.sets set hset
  · intro key _ set hset hlive
    rw [hsame.object?] at hset
    rw [labelled_of_consulted hsame]
    exact ready.timely key set hset hlive

/-- **A resync that is worked off** is a sweep over all sets. -/
theorem Ready.drained {drained : Hub.Ending Unit} (ready : Ready settings h)
    (resync : Runs Runner.resync h calls ending mid) (drains : Drains settings mid n drained h') :
    drained = .result () ∧ n = (h.store.objects .set).length ∧
      Swept settings.prune h.store.setKeys h.store h'.store h.cache h'.cache ∧
      h'.queue.order = [] ∧ h'.queue.Sound ∧ h'.queue.processing = h.queue.processing ∧
      h'.queue.capacity = h.queue.capacity ∧ h'.queue.closed = false := by
  obtain ⟨-, hseen, hcache, hqueue, horder, hdraining⟩ := ready.resynced resync
  obtain ⟨hending, hturns, hswept, hempty, hsound, hprocessing, hcapacity, hopen⟩ :=
    hdraining.drained horder drains
  have hread : Swept settings.prune [] h.store mid.store h.cache mid.cache := by
    rw [hcache]
    exact .of_inspected ready.sound ready.faultless ready.cached hseen
  rw [length_setKeys] at hturns
  exact ⟨hending, hturns, hread.trans hswept, hempty, hsound, hprocessing.trans hqueue.processing,
    hcapacity.trans hqueue.capacity, hopen⟩

theorem Swept.perm_setKeys {prune : Bool} {keys : List Key} {s s' : MemoryStore} {c c' : Membership}
    (hs : s.Sound) (h : Swept prune keys s s' c c') : s'.setKeys.Perm s.setKeys := by
  refine (List.perm_ext_iff_of_nodup (nodup_setKeys h.sound) (nodup_setKeys hs)).mpr fun key => ?_
  rw [mem_setKeys h.sound, mem_setKeys hs]
  constructor
  · rintro ⟨set', hset'⟩
    obtain ⟨set, hset, -⟩ := h.found_before hset'
    exact ⟨set, hset⟩
  · rintro ⟨set, hset⟩
    obtain ⟨set', hset', -⟩ := h.found_after hset
    exact ⟨set', hset'⟩

/-- After a sweep over all sets the status of every live one is right. -/
theorem Swept.tells {prune : Bool} {s s' : MemoryStore} {c c' : Membership} (hs : s.Sound)
    (h : Swept prune s.setKeys s s' c c') {key : Key} {set' : Resource}
    (found : s'.object? .set key = some set') (live : set'.isDeleting = false) :
    Tells (s'.labelled set'.name).length set' := by
  obtain ⟨set, hset, hsame, hname⟩ := h.found_before found
  obtain ⟨set'', hset'', hrefreshed⟩ :=
    h.live ((mem_setKeys hs).mpr ⟨set, hset⟩) hset (hsame.trans live)
  obtain rfl := Option.some.inj (found.symm.trans hset'')
  rw [h.labelled, ← hname]
  exact hrefreshed.tells

/-- **A hub that was swept is ready again.** -/
theorem Ready.again (ready : Ready settings h)
    (swept : Swept settings.prune h.store.setKeys h.store h'.store h.cache h'.cache)
    (empty : h'.queue.order = []) (queue : h'.queue.Sound) (opened : h'.queue.closed = false)
    (processing : h'.queue.processing = h.queue.processing)
    (capacity : h'.queue.capacity = h.queue.capacity) : Ready settings h' := by
  have hkeys := swept.perm_setKeys ready.sound
  have hbefore {set' : Resource} (hset' : set' ∈ h'.store.objects .set) :
      ∃ set ∈ h.store.objects .set, set.key = set'.key := by
    obtain ⟨set, hset, -⟩ := swept.found_before (swept.sound.mem_objects.mp hset')
    exact ⟨set, ready.sound.mem_of_found hset, (ready.sound.found hset).1⟩
  refine ⟨swept.sound, swept.faultless, fun set' hset' => ?_, swept.clusterScoped ready.members,
    fun key set' hset' hlive houtlasted => houtlasted.2 (swept.tells ready.sound hset' hlive),
    swept.cached, ready.untimed, queue, opened, empty, fun set' hset' => ?_, ?_⟩
  · obtain ⟨set, hset, hkey⟩ := hbefore hset'
    have hns : set.metadata.ns = set'.metadata.ns := congrArg Key.ns hkey
    rw [← hns]
    exact ready.sets set hset
  · obtain ⟨set, hset, hkey⟩ := hbefore hset'
    rw [processing, ← hkey]
    exact ready.idle set hset
  · rw [capacity, ← length_setKeys, hkeys.length_eq, length_setKeys]
    exact ready.room

/-- A sweep over all sets heals. -/
theorem Ready.healed (ready : Ready settings h)
    (swept : Swept settings.prune h.store.setKeys h.store h'.store h.cache h'.cache) :
    Healed h h' := by
  refine ⟨fun {key set} hset hlive => ?_, fun {key set} hset hmarked => ?_, fun hnone => ?_, ?_⟩
  · obtain ⟨set', hset', hrefreshed⟩ :=
      swept.live ((mem_setKeys ready.sound).mpr ⟨set, hset⟩) hset hlive
    exact ⟨set', hset', hrefreshed.tells, hrefreshed⟩
  · rw [swept.others, hset]
    rintro ⟨-, -, set', hset', hlive⟩
    obtain rfl := Option.some.inj (hset.symm.trans hset')
    cases hmarked.symm.trans hlive
  · refine swept.others ?_
    rintro ⟨hkind, -, set, hset, -⟩
    rcases hnone with hkind' | hgone
    · exact hkind' hkind
    · cases hset.symm.trans hgone
  · intro member hmember set hset hlive hlabel
    have hstored := ready.sound.mem_objects.mp hmember
    rw [ready.members.key_eq hmember] at hstored
    have hnames : h.store.labelOf member.name = some set.name := by
      rw [labelOf, hstored, Option.bind_some, hlabel]
    have hfound := ready.sound.mem_objects.mp hset
    exact swept.follows.points hnames
      ⟨set.key, (mem_setKeys ready.sound).mpr ⟨set, hfound⟩, set, hfound, hlive, rfl⟩

/-- **A resync heals any state.** A resync of a hub that is ready ends with a
result; its queue can be worked off, and however that is done, it takes one
turn for each set, no turn is broken off, and the hub is healed. It is then
ready again, and another resync that is worked off writes no status. -/
theorem resync_heals (ready : Ready settings h) (resync : Runs Runner.resync h calls ending mid) :
    ending = .result () ∧ (∃ n h', Drains settings mid n (.result ()) h') ∧
      ∀ {n : ℕ} {drained : Hub.Ending Unit} {h' : Hub MemoryStore},
        Drains settings mid n drained h' →
        drained = .result () ∧ n = (h.store.objects .set).length ∧ h'.queue.order = [] ∧
          Healed h h' ∧ Ready settings h' ∧
          ∀ {calls' : List Call} {ending' : Hub.Ending Unit} {mid' : Hub MemoryStore} {n' : ℕ}
            {drained' : Hub.Ending Unit} {h'' : Hub MemoryStore},
            Runs Runner.resync h' calls' ending' mid' → Drains settings mid' n' drained' h'' →
            drained' = .result () ∧ Inspected h'.store h''.store := by
  obtain ⟨hending, -, -, -, -, hdraining⟩ := ready.resynced resync
  refine ⟨hending, hdraining.exists_drain, fun drains => ?_⟩
  obtain ⟨hdrained, hturns, hswept, hempty, hsound, hprocessing, hcapacity, hopen⟩ :=
    ready.drained resync drains
  have hagain := ready.again hswept hempty hsound hopen hprocessing hcapacity
  refine ⟨hdrained, hturns, hempty, ready.healed hswept, hagain, fun resync' drains' => ?_⟩
  obtain ⟨hdrained', -, hswept', -⟩ := hagain.drained resync' drains'
  refine ⟨hdrained', hswept'.quiet fun key _ set hset hlive => ?_⟩
  exact hswept.tells ready.sound hset hlive

end Resync

/-- A hub with a live set whose condition is wrong and stands twice, a set
that is marked for deletion, a member of the live set that is cached under
the marked one, and a cached member that is not stored. -/
def Hub.corrupted : Hub MemoryStore :=
  let wrong : Condition := ⟨"Empty", .fails, "ClustersSelected", "7 ManagedClusters selected", Instant.epoch⟩
  let twice : Condition := ⟨"Empty", .unknown, "", "", Instant.epoch⟩
  let a := MemoryStore.empty.put .set ⟨⟨"a", none, none, none, [], none⟩, [wrong, twice]⟩
  let b := a.2.put .set ⟨⟨"b", none, none, none, [], some Instant.epoch⟩, [wrong]⟩
  let m := b.2.put .member ⟨⟨"m", none, none, none, [(Resource.setLabel, "a")], none⟩, []⟩
  { Hub.start m.2 2 Instant.epoch with
    cache := (Membership.empty.insert "m" "b").insert "x" "a" }

theorem Hub.ready_corrupted : Ready { Settings.standard with syncTimeout := none } .corrupted := by
  have hsound : Hub.corrupted.store.Sound := ((sound_empty.put .set _).put .set _).put .member _
  have htimely : ∀ set ∈ Hub.corrupted.store.objects .set, ∀ c ∈ set.conditions,
      c.since.addMicrosecond.isSome = true := by decide +kernel
  have hcached : Hub.corrupted.cache.Sound :=
    Fields.Sorted.insert (Fields.Sorted.insert List.Pairwise.nil)
  refine ⟨hsound, ⟨rfl, rfl⟩, ?_, ?_, timely_of_conditions hsound htimely, hcached, rfl,
    WorkQueue.sound_withCapacity 2, rfl, rfl, fun _ _ hmem => ?_, by decide +kernel⟩
  · unfold ClusterScoped
    decide +kernel
  · unfold ClusterScoped
    decide +kernel
  · cases hmem

/-- The corrupted hub is healed in two turns: its live set tells of one
member, which is cached under it. -/
theorem resync_heals_corrupted : ∃ calls mid h' set,
    Runs Runner.resync .corrupted calls (.result ()) mid ∧
      Drains { Settings.standard with syncTimeout := none } mid 2 (.result ()) h' ∧
      h'.store.object? .set (.cluster "a") = some set ∧ Tells 1 set ∧
      h'.cache.get? "m" = some "a" := by
  obtain ⟨calls, resync⟩ := Runs.of_runAlone Runner.resync .corrupted
  obtain ⟨hending, ⟨n, h', drains⟩, hall⟩ := resync_heals Hub.ready_corrupted resync
  obtain ⟨-, hturns, -, healed, -⟩ := hall drains
  have htwo : n = 2 := hturns.trans (by decide +kernel)
  obtain ⟨a, ha, hlive, hname, hcount⟩ : ∃ a,
      Hub.corrupted.store.object? .set (.cluster "a") = some a ∧ a.isDeleting = false ∧
        a.name = "a" ∧ (Hub.corrupted.store.labelled a.name).length = 1 :=
    ⟨_, rfl, by decide +kernel, by decide +kernel, by decide +kernel⟩
  obtain ⟨m, hm, hlabel, hmname⟩ : ∃ m,
      Hub.corrupted.store.object? .member (.cluster "m") = some m ∧ m.clusterSet? = some "a" ∧
        m.name = "m" := ⟨_, rfl, by decide +kernel, by decide +kernel⟩
  have hsound := Hub.ready_corrupted.sound
  obtain ⟨set, hset, htells, -⟩ := healed.live ha hlive
  have hcached := healed.cached m (hsound.mem_of_found hm) a (hsound.mem_of_found ha) hlive
    (hname ▸ hlabel)
  rw [hcount] at htells
  rw [hending] at resync
  rw [htwo] at drains
  rw [hmname, hname] at hcached
  exact ⟨calls, _, h', set, resync, drains, hset, htells, hcached⟩

end ClusterFleet
