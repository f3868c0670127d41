import ClusterFleet.Proofs.Sync.Changes

/-!
# Sync — no change of membership is lost

A fleet whose watch reports every change at once: the authority changes
members and sets, the runner works on one key after another, time passes,
and requests fail as often as faults are planted. A live set is `Current`
when its status tells how many members it has and each of them is cached
under it; the cache matters because it is how a set hears of a member that
leaves. **No change is lost** (`no_change_is_lost`): a set that is not
current awaits its turn, as long as the queue drops nothing.
-/

namespace ClusterFleet

open MemoryStore

/-- A set is up to date: its status tells how many members it has, and each
of them is cached under it. -/
structure Current (s : MemoryStore) (c : Membership) (set : Resource) : Prop where
  tells : Tells (s.labelled set.name).length set
  cached : ∀ member ∈ s.labelled set.name, c.get? member.name = some set.name

namespace Current

variable {s s' : MemoryStore} {c c' : Membership} {set : Resource} {key : Key}

/-- Stores that agree on who belongs to a set agree on whether it is
current. -/
theorem congr (hs : s.Sound) (hs' : s'.Sound) (current : Current s c set)
    (hmem : ∀ r, r ∈ s'.labelled set.name ↔ r ∈ s.labelled set.name)
    (hcache : ∀ member ∈ s.labelled set.name, c'.get? member.name = c.get? member.name) :
    Current s' c' set := by
  constructor
  · rw [length_labelled_eq hs hs' hmem]
    exact current.tells
  · intro member hmember
    have hbefore := (hmem member).mp hmember
    rw [hcache member hbefore, current.cached member hbefore]

/-- **A change of a member** that names another set, of a member that was not
cached under the set, leaves the set current: the member did not belong to
it before either. -/
theorem of_member {change : Change} (hs : s.Sound) (changed : Changed .member change s s')
    (current : Current s c set)
    (hnow : change.object.clusterSet? ≠ some set.name)
    (hbefore : c.get? change.object.name ≠ some set.name) :
    Current s' (c.after change) set := by
  have hname {r : Resource} (hr : r ∈ s.labelled set.name) : r.name ≠ change.object.name := by
    intro heq
    exact hbefore (heq ▸ current.cached r hr)
  refine current.congr hs changed.sound (fun r => ?_) fun member hmember => ?_
  · rw [changed.mem_labelled hs]
    constructor
    · rintro (⟨hstored, -, hset⟩ | ⟨-, hold⟩)
      · cases change with
        | applied object =>
          obtain rfl := Option.some.inj hstored
          exact absurd hset hnow
        | deleted object => cases hstored
      · exact hold
    · intro hr
      refine .inr ⟨fun heq => hname hr ?_, hr⟩
      exact congrArg Key.name heq
  · cases change with
    | applied object => rfl
    | deleted object =>
      change (c.forget object.name).get? member.name = _
      exact (Membership.get?_forget _ _ _).trans (if_neg (hname hmember))

/-- A change of another kind of object leaves a set current. -/
theorem of_same_members (hs : s.Sound) (hs' : s'.Sound)
    (h : ∀ key, s'.object? .member key = s.object? .member key) (current : Current s c set) :
    Current s' c set :=
  current.congr hs hs' (fun _ => mem_labelled_congr hs hs' h) fun _ _ => rfl

variable {prune : Bool} {log : List (String × List String)}
variable {ending : Hub.Ending (Except StoreError SyncOutcome)}

/-- **Reconciling another set** leaves a set current: nobody selects a member
that carries the label of this one. -/
theorem of_sync (hs : s.Sound) (hscoped : s.Scoped) (hc : c.Sound) (current : Current s c set)
    (ends : SyncEnds prune key s s' c c' log ending) (hne : key ≠ .cluster set.name) :
    Current s' c' set := by
  have frame := ends.frame hs
  have hsame (key' : Key) : s'.object? .member key' = s.object? .member key' :=
    frame.others fun heq => nomatch (Prod.mk.inj heq).1
  refine current.congr hs frame.later.sound (fun _ => mem_labelled_congr hs frame.later.sound hsame)
    fun member hmember => ?_
  obtain ⟨-, rfl⟩ | ⟨other, hother, -, rfl⟩ := ends.rebuilt
  · rfl
  · have hname : other.name ≠ set.name := by
      intro heq
      exact hne ((hscoped.key_eq hs hother).1.trans (congrArg Key.cluster heq))
    have hcached := current.cached member hmember
    rw [hc.get?_rebuild, if_neg, if_neg]
    · rintro ⟨-, hget⟩
      exact hname (Option.some.inj (hget.symm.trans hcached))
    · intro hselected
      obtain ⟨twin, htwin, heq⟩ := mem_selected.mp hselected
      obtain rfl := hscoped.member_eq hs htwin hmember heq
      have hset := ((mem_labelled hs).mp htwin).2
      rw [((mem_labelled hs).mp hmember).2] at hset
      exact hname (Option.some.inj hset).symm

/-- **A set that was brought up to date** is current. -/
theorem of_settled (hs : s.Sound) (hc : c.Sound) {stored : Resource}
    (found : s.object? .set key = some stored)
    (settled : Settled key stored (s.selected stored).length s s')
    (hrebuilt : c' = (c.rebuild stored.name (s.selected stored) prune).2)
    (after : s'.object? .set key = some set) : Current s' c' set := by
  have frame := SyncFrame.of_settled found settled
  have hsame (key' : Key) : s'.object? .member key' = s.object? .member key' :=
    frame.others fun heq => nomatch (Prod.mk.inj heq).1
  have hmem (r : Resource) : r ∈ s'.labelled stored.name ↔ r ∈ s.labelled stored.name :=
    mem_labelled_congr hs frame.later.sound hsame
  obtain ⟨set', hset', htells, -⟩ := settled.tells
  obtain rfl := Option.some.inj (after.symm.trans hset')
  have hname : set.name = stored.name :=
    congrArg Key.name ((frame.later.sound.found after).1.trans (hs.found found).1.symm)
  constructor
  · rw [hname, length_labelled_eq hs frame.later.sound hmem, ← length_selected]
    exact htells
  · intro member hmember
    rw [hname] at hmember ⊢
    rw [hrebuilt, hc.get?_rebuild, if_pos]
    exact mem_selected.mpr ⟨member, (hmem member).mp hmember, rfl⟩

end Current

/-! ## The fleet -/

/-- A turn of the runner is not at the end of a clock: no condition that says
whether a set is empty carries the last time of the calendar, and the
deadline of the turn is within the range of the clock. -/
structure Calm (settings : Settings) (h : Hub MemoryStore) : Prop where
  /-- The calendar goes on after every condition. -/
  calendar : ∀ set ∈ h.store.objects .set,
    ∀ c ∈ Condition.find? ClusterSet.emptyType set.conditions, c.since.addMicrosecond ≠ none
  /-- The clock reaches the deadline. -/
  clock : ∀ span ∈ settings.syncTimeout, h.clock.after? span ≠ none

/-- A step of a fleet whose watch reports every change at once. -/
inductive FleetStep (settings : Settings) : Hub MemoryStore → Hub MemoryStore → Prop
  /-- A member changes, and the runner hears of it. -/
  | member {h h' : Hub MemoryStore} {change : Change} {store : MemoryStore} {calls : List Call}
      {ending : Hub.Ending Unit} (reported : Reported .member h.store change store)
      (told : Runs (Runner.onMember change) { h with store := store } calls ending h') :
      FleetStep settings h h'
  /-- A set changes, and the runner hears of it. -/
  | set {h h' : Hub MemoryStore} {change : Change} {store : MemoryStore} {calls : List Call}
      {ending : Hub.Ending Unit} (reported : Reported .set h.store change store)
      (told : Runs (Runner.onSet change) { h with store := store } calls ending h') :
      FleetStep settings h h'
  | turn {h h' : Hub MemoryStore} {calls : List Call} {ending : Hub.Ending Bool}
      (calm : Calm settings h) (run : Runs (Runner.processNext settings) h calls ending h') :
      FleetStep settings h h'
  | passes {h h' : Hub MemoryStore} (passes : h.Passes h') : FleetStep settings h h'
  /-- A fault that may mend is planted for a read. -/
  | readFault {h : Hub MemoryStore} {fault : StoreError} (mends : fault.isRetryable = true) :
      FleetStep settings h { h with store := h.store.plantReadFault fault }
  /-- A fault that may mend is planted for a write. -/
  | writeFault {h : Hub MemoryStore} {fault : StoreError} (mends : fault.isRetryable = true) :
      FleetStep settings h { h with store := h.store.plantWriteFault fault }
  | conflicts {h : Hub MemoryStore} (n : Nat) :
      FleetStep settings h { h with store := h.store.plantConflicts n }

/-- The hubs that a fleet reaches. -/
inductive FleetRun (settings : Settings) (start : Hub MemoryStore) : Hub MemoryStore → Prop
  | start : FleetRun settings start start
  | step {h h' : Hub MemoryStore} (run : FleetRun settings start h)
      (step : FleetStep settings h h') : FleetRun settings start h'

/-- Every fault that is planted may mend. -/
def Mends (s : MemoryStore) : Prop :=
  ∀ fault, fault ∈ s.readFaults ∨ fault ∈ s.writeFaults → fault.isRetryable = true

/-- More faults that may mend can be planted for reads. -/
theorem Mends.planted_reads {s : MemoryStore} {more : List StoreError} (mends : Mends s)
    (hmore : ∀ fault ∈ more, fault.isRetryable = true) :
    Mends { s with readFaults := s.readFaults ++ more } := by
  rintro fault (hread | hwrite)
  · rcases List.mem_append.mp hread with hread | hread
    · exact mends fault (.inl hread)
    · exact hmore fault hread
  · exact mends fault (.inr hwrite)

/-- And for writes. -/
theorem Mends.planted_writes {s : MemoryStore} {more : List StoreError} (mends : Mends s)
    (hmore : ∀ fault ∈ more, fault.isRetryable = true) :
    Mends { s with writeFaults := s.writeFaults ++ more } := by
  rintro fault (hread | hwrite)
  · exact mends fault (.inl hread)
  · rcases List.mem_append.mp hwrite with hwrite | hwrite
    · exact mends fault (.inr hwrite)
    · exact hmore fault hwrite

/-- **What a fleet keeps**: its parts are sound, and every live set awaits
its turn or is current, unless the queue has dropped a key. -/
structure FleetSound (h : Hub MemoryStore) : Prop where
  store : h.store.Sound
  cluster : h.store.Scoped
  mends : Mends h.store
  cache : h.cache.Sound
  queue : h.queue.Sound
  closed : h.queue.closed = false
  /-- No set is left behind. -/
  heard : h.queue.dropped = 0 → ∀ {key : Key} {set : Resource},
    h.store.object? .set key = some set → set.isDeleting = false →
      h.Awaits key ∨ Current h.store h.cache set

namespace FleetSound

variable {settings : Settings} {h h' : Hub MemoryStore} {change : Change}

theorem start (capacity : Nat) (calendar : Instant) : FleetSound (.start .empty capacity calendar) where
  store := sound_empty
  cluster := fun _ _ _ h => nomatch h
  mends := fun _ h => h.elim (fun h => nomatch h) (fun h => nomatch h)
  cache := Membership.sound_empty
  queue := WorkQueue.sound_withCapacity capacity
  closed := rfl
  heard := fun _ _ _ h => nomatch h

/-- Where store and cache are the same, growth of the queue keeps the
fleet sound. -/
theorem of_grows (hsound : FleetSound h) (hstore : h'.store = h.store) (hcache : h'.cache = h.cache)
    (grows : h.Grows h') : FleetSound h' where
  store := by rw [hstore]; exact hsound.store
  cluster := by rw [hstore]; exact hsound.cluster
  mends := by rw [hstore]; exact hsound.mends
  cache := by rw [hcache]; exact hsound.cache
  queue := grows.sound
  closed := grows.closed
  heard := by
    intro hdropped key set hset hlive
    obtain ⟨hzero, hsame⟩ := grows.kept hdropped
    rw [hstore] at hset
    rw [hstore, hcache]
    exact (hsound.heard hzero hset hlive).imp_left (grows.awaits hsame key)

/-- Faults that may mend do no harm. -/
theorem of_faults {store : MemoryStore} (hsound : FleetSound h)
    (hentries : store.entries = h.store.entries) (hversions : store.versions = h.store.versions)
    (hmends : Mends store) : FleetSound { h with store := store } := by
  have hobject (kind : Kind) (key : Key) : store.object? kind key = h.store.object? kind key := by
    rw [object?_eq, object?_eq, hentries]
  have hstore : store.Sound := by
    constructor
    · rw [hentries, hversions]
      exact hsound.store.written
    · rw [hentries]
      exact hsound.store.nodup
  refine ⟨hstore, fun kind key r hr => ?_, hmends, hsound.cache, hsound.queue, hsound.closed,
    fun hdropped key set hset hlive => ?_⟩
  · exact hsound.cluster kind key r ((hobject kind key).symm.trans hr)
  · have hbefore := (hobject .set key).symm.trans hset
    refine (hsound.heard hdropped hbefore hlive).imp_right fun current => ?_
    exact current.of_same_members hsound.store hstore fun _ => hobject _ _

/-- After a change the parts are sound, so only the sets are left to look
at. -/
theorem of_changed (hsound : FleetSound h) {kind : Kind} {store : MemoryStore}
    (changed : Changed kind change h.store store) (hstore : h'.store = store)
    (cached : h'.cache.Sound) (queue : h'.queue.Sound) (opened : h'.queue.closed = false)
    (heard : h'.queue.dropped = 0 → ∀ {key : Key} {set : Resource},
      store.object? .set key = some set → set.isDeleting = false →
        h'.Awaits key ∨ Current store h'.cache set) : FleetSound h' := by
  subst hstore
  refine ⟨changed.sound, changed.scoped hsound.cluster, ?_, cached, queue, opened, heard⟩
  rw [Mends, changed.readFaults, changed.writeFaults]
  exact hsound.mends

/-- A change of a member leaves nobody behind: the sets it leaves current
neither lost nor gained it. -/
theorem of_member (hsound : FleetSound h) {store : MemoryStore} {calls : List Call}
    {ending : Hub.Ending Unit} (reported : Reported .member h.store change store)
    (told : Runs (Runner.onMember change) { h with store := store } calls ending h') :
    FleetSound h' := by
  have changed := reported.changed hsound.store hsound.cluster
  obtain ⟨-, -, added⟩ :=
    onMember_ends (h := { h with store := store }) hsound.queue hsound.closed told
  have hstore : h'.store = store := added.store
  have hcache : h'.cache = h.cache.after change := added.cache
  refine hsound.of_changed changed hstore (hcache ▸ hsound.cache.after change) added.grows.sound
    added.grows.closed fun hdropped key set hset hlive => ?_
  obtain ⟨hzero, hsame⟩ := added.grows.kept hdropped
  rw [hcache]
  have hother : (Kind.member, change.object.key) ≠ (Kind.set, key) :=
    fun heq => nomatch (Prod.mk.inj heq).1
  have hbefore := (changed.elsewhere hother).symm.trans hset
  have hkey := (hsound.cluster.key_eq hsound.store hbefore).1
  rcases hsound.heard hzero hbefore hlive with hawaits | current
  · exact .inl (added.grows.awaits hsame key hawaits)
  · -- a set that the change does not concern is as current as before
    by_cases hconcerned : change.object.clusterSet? = some set.name ∨
        h.cache.get? change.object.name = some set.name
    · exact .inl (added.awaits hsame key (mem_concerned.mpr ⟨set.name, hkey, hconcerned⟩))
    · obtain ⟨hnow, hcached⟩ := not_or.mp hconcerned
      exact .inr (current.of_member hsound.store changed hnow hcached)

/-- A change of a set leaves nobody behind: the set itself awaits its
turn. -/
theorem of_set (hsound : FleetSound h) {store : MemoryStore} {calls : List Call}
    {ending : Hub.Ending Unit} (reported : Reported .set h.store change store)
    (told : Runs (Runner.onSet change) { h with store := store } calls ending h') :
    FleetSound h' := by
  have changed := reported.changed hsound.store hsound.cluster
  obtain ⟨-, -, added⟩ := onSet_ends (h := { h with store := store }) hsound.queue hsound.closed told
  have hstore : h'.store = store := added.store
  have hcache : h'.cache = h.cache := added.cache
  refine hsound.of_changed changed hstore (hcache ▸ hsound.cache) added.grows.sound
    added.grows.closed fun hdropped key set hset hlive => ?_
  obtain ⟨hzero, hsame⟩ := added.grows.kept hdropped
  rw [hcache]
  by_cases hkey : change.object.key = key
  · rw [changed.objects, if_pos (by rw [hkey])] at hset
    cases change with
    | applied object => exact .inl (added.awaits hsame key (List.mem_singleton.mpr hkey.symm))
    | deleted object => cases hset
  · have hbefore := (changed.elsewhere fun heq => hkey (Prod.mk.inj heq).2).symm.trans hset
    rcases hsound.heard hzero hbefore hlive with hawaits | current
    · exact .inl (added.grows.awaits hsame key hawaits)
    · refine .inr (current.of_same_members hsound.store changed.sound fun key' => ?_)
      exact changed.elsewhere fun heq => nomatch (Prod.mk.inj heq).1

/-- The set that had its turn is current, or failed in a way that may
mend. -/
theorem own_turn {prune : Bool} {key : Key} {s s' : MemoryStore} {c c' : Membership}
    {log : List (String × List String)} {result : Except StoreError SyncOutcome} {set : Resource}
    (hs : s.Sound) (hc : c.Sound) (hmends : Mends s) (hns : key.ns = none)
    (ends : SyncEnds prune key s s' c c' log (.result result))
    (after : s'.object? .set key = some set) (live : set.isDeleting = false) :
    (∃ e, result = .error e ∧ e.isRetryable = true) ∨ Current s' c' set := by
  have hplanted {e : StoreError} (h : Planted s e) : e.isRetryable = true := by
    obtain ⟨fault, hfault, hretry⟩ := h
    exact hretry (hmends fault hfault)
  cases ends with
  | idle outcome same kept nothing =>
    rw [same.object?] at after
    rw [nothing set after] at live
    cases live
  | failed e same kept cause => exact .inl ⟨e, rfl, hplanted (cause hns)⟩
  | refused e found live' same rebuilt cause => exact .inl ⟨e, rfl, hplanted cause⟩
  | reconciled outcome found live' settled rebuilt =>
    exact .inr (.of_settled hs hc found settled rebuilt after)

/-- A turn leaves nobody behind. -/
theorem of_turn (hsound : FleetSound h) (calm : Calm settings h) {calls : List Call}
    {ending : Hub.Ending Bool} (run : Runs (Runner.processNext settings) h calls ending h') :
    FleetSound h' := by
  have hturn := processNext_ends hsound.store hsound.queue hsound.closed run
  generalize rebuilds calls = log at hturn
  cases hturn with
  | stuck empty same =>
    rw [same]
    exact hsound
  | late waits limit beyond => exact absurd beyond (calm.clock _ limit)
  | broken waits ends =>
    cases ends with
    | aborted found live same rebuilt condition last =>
      have hmem := hsound.store.mem_objects.mpr (by rw [(hsound.store.found found).1]; exact found)
      exact absurd last (calm.calendar _ hmem _ condition)
  | @worked key rest result _ waits ends turned again =>
    have frame := ends.frame hsound.store
    refine ⟨frame.later.sound, fun kind key' r hr => ?_, fun fault hfault => ?_, ?_, turned.sound,
      turned.closed, fun hdropped key' set hset hlive => ?_⟩
    · obtain ⟨r', hr'⟩ := frame.known hr
      exact hsound.cluster kind key' r' hr'
    · exact hsound.mends fault
        (hfault.imp (frame.readFaults.subset ·) (frame.writeFaults.subset ·))
    · obtain ⟨-, heq⟩ | ⟨set, -, -, heq⟩ := ends.rebuilt
      · rw [heq]
        exact hsound.cache
      · rw [heq]
        exact hsound.cache.rebuild
    · obtain ⟨hzero, hsame⟩ := turned.kept hdropped
      -- the set of this turn, or one that the turn leaves alone
      by_cases hkey : key' = key
      · subst hkey
        obtain ⟨before, hbefore⟩ := frame.known hset
        rcases own_turn hsound.store hsound.cache hsound.mends
          (hsound.cluster _ _ _ hbefore) ends hset hlive with ⟨e, heq, hretry⟩ | current
        · exact .inl (again e heq hretry hsame)
        · exact .inr current
      · have hbefore := (frame.others fun heq => hkey (Prod.mk.inj heq).2.symm).symm.trans hset
        rcases hsound.heard hzero hbefore hlive with hawaits | current
        · exact .inl (turned.awaits hsame key' hkey hawaits)
        · refine .inr (current.of_sync hsound.store hsound.cluster hsound.cache ends ?_)
          exact fun heq => hkey ((hsound.cluster.key_eq hsound.store hbefore).1.trans heq.symm)

/-- **Every step** keeps the fleet sound. -/
theorem step (hsound : FleetSound h) (step : FleetStep settings h h') : FleetSound h' := by
  cases step with
  | member reported told => exact hsound.of_member reported told
  | set reported told => exact hsound.of_set reported told
  | turn calm run => exact hsound.of_turn calm run
  | passes passes =>
    obtain ⟨hstore, hcache⟩ := passes.aside
    exact hsound.of_grows hstore hcache (.passes hsound.queue hsound.closed passes)
  | @readFault fault hretry =>
    refine hsound.of_faults rfl rfl (hsound.mends.planted_reads fun planted hplanted => ?_)
    rw [List.mem_singleton.mp hplanted]
    exact hretry
  | @writeFault fault hretry =>
    refine hsound.of_faults rfl rfl (hsound.mends.planted_writes fun planted hplanted => ?_)
    rw [List.mem_singleton.mp hplanted]
    exact hretry
  | conflicts n =>
    refine hsound.of_faults rfl rfl (hsound.mends.planted_writes fun planted hplanted => ?_)
    rw [(List.mem_replicate.mp hplanted).2]
    rfl

theorem run {capacity : Nat} {calendar : Instant}
    (run : FleetRun settings (.start .empty capacity calendar) h) : FleetSound h := by
  induction run with
  | start => exact start capacity calendar
  | step _ step ih => exact ih.step step

end FleetSound

/-- **No change of membership is lost**, whatever fails in a way that may
mend: every live set of a fleet that dropped no key awaits its turn, or its
status tells how many members it has. -/
theorem no_change_is_lost {settings : Settings} {capacity : Nat} {calendar : Instant}
    {h : Hub MemoryStore} (run : FleetRun settings (.start .empty capacity calendar) h)
    (kept : h.queue.dropped = 0) {key : Key} {set : Resource}
    (stored : h.store.object? .set key = some set) (live : set.isDeleting = false) :
    key ∈ h.queue.queued ∨ key ∈ h.queue.dirty ∨ (∃ d ∈ h.delayed, d.key = key) ∨
      Tells (h.store.labelled set.name).length set := by
  have hsound := FleetSound.run run
  rcases hsound.heard kept stored live with ((hwaits | hmarked) | hlater) | current
  · exact .inl ((hsound.queue.mem_queued key).mpr hwaits)
  · exact .inr (.inl hmarked)
  · exact .inr (.inr (.inl hlater))
  · exact .inr (.inr (.inr current.tells))

/-- A fleet with a set, one member and a fault that the next read meets. -/
def FleetRun.faulty : Hub MemoryStore :=
  let h := Hub.start MemoryStore.empty 1 Instant.epoch
  let set := h.store.put .set ⟨⟨"s", none, none, none, [], none⟩, []⟩
  let h := (Hub.runAlone (Runner.onSet (.applied set.1)) { h with store := set.2 }).2
  let member :=
    h.store.put .member ⟨⟨"m", none, none, none, [(Resource.setLabel, "s")], none⟩, []⟩
  let h := (Hub.runAlone (Runner.onMember (.applied member.1)) { h with store := member.2 }).2
  { h with store := h.store.plantReadFault (.transient "down") }

/-- The turn that meets the fault leaves the status as it was, and the set
comes back later. -/
theorem no_change_is_lost_failing : ∃ h set,
    FleetRun .standard (.start .empty 1 Instant.epoch) h ∧
      h.store.object? .set (.cluster "s") = some set ∧ set.conditions = [] ∧
      h.queue.queued = [] ∧ h.queue.dirty = [] ∧ ∃ d ∈ h.delayed, d.key = .cluster "s" := by
  have heard (change : Change) (h : Hub MemoryStore) := Runs.of_runAlone (Runner.onSet change) h
  have heard' (change : Change) (h : Hub MemoryStore) := Runs.of_runAlone (Runner.onMember change) h
  have planted : FleetRun .standard (.start .empty 1 Instant.epoch) FleetRun.faulty :=
    .step (.step (.step .start (.set (.put rfl) (heard _ _).choose_spec))
      (.member (.put rfl) (heard' _ _).choose_spec)) (.readFault rfl)
  have calm : Calm .standard FleetRun.faulty := by
    refine ⟨by decide +kernel, fun span hspan => ?_⟩
    obtain rfl := Option.some.inj hspan
    decide +kernel
  obtain ⟨_, turn⟩ := Runs.of_runAlone (Runner.processNext .standard) FleetRun.faulty
  have run := planted.step (.turn calm turn)
  let h := (Hub.runAlone (Runner.processNext .standard) FleetRun.faulty).2
  have kept : h.queue.dropped = 0 := by decide +kernel
  have hqueued : h.queue.queued = [] := by decide +kernel
  have hdirty : h.queue.dirty = [] := by decide +kernel
  have hset : (h.store.object? .set (.cluster "s")).map (fun set => (set.isDeleting, set.conditions)) =
      some (false, []) := by decide +kernel
  obtain ⟨set, stored, hparts⟩ := Option.map_eq_some_iff.mp hset
  obtain ⟨live, hbare⟩ := Prod.mk.inj hparts
  refine ⟨h, set, run, stored, hbare, hqueued, hdirty, ?_⟩
  rcases no_change_is_lost run kept stored live with hwaits | hmarked | hlater | ⟨c, hfind, -⟩
  · rw [hqueued] at hwaits
    cases hwaits
  · rw [hdirty] at hmarked
    cases hmarked
  · exact hlater
  · rw [hbare] at hfind
    cases hfind

end ClusterFleet
