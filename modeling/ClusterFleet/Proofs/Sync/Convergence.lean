import ClusterFleet.Proofs.Sync.Feed

/-!
# Sync — what a lagging watch leaves behind

When everything was reported and worked off, the status of a live set tells
how many members it has, exactly if the set was not overtaken
(`quiet_tells_iff`). The cache is what breaks: a set that is reconciled
between the change of a member and the report of it takes the member over,
and the set that the member left does not hear of it (`stale_once_overtaken`).

Between its turns a set rests on what its last rebuild selected
(`Published`). Whoever joined since, or was selected and left, is in a
report to come, as long as nobody took the member over.
-/

namespace ClusterFleet

open MemoryStore

/-! ## How many are told of -/

/-- A status tells one number. -/
theorem Tells.unique {n k : Nat} {set : Resource} (hn : Tells n set) (hk : Tells k set) : n = k := by
  -- no number and some number differ in the status, two numbers in the message
  have hapart {j : Nat} (hj : 0 < j) (none : Tells 0 set) (some : Tells j set) : False := by
    obtain ⟨c, hc, hstatus, -⟩ := tells_zero_iff.mp none
    obtain ⟨c', hc', hstatus', -⟩ := (tells_pos_iff hj).mp some
    obtain rfl := Option.some.inj (hc.symm.trans hc')
    exact absurd (hstatus.symm.trans hstatus') (by decide)
  obtain rfl | hpos := Nat.eq_zero_or_pos n <;> obtain rfl | hpos' := Nat.eq_zero_or_pos k
  · rfl
  · exact (hapart hpos' hn hk).elim
  · exact (hapart hpos hk hn).elim
  · obtain ⟨c, hc, -, -, hmessage⟩ := (tells_pos_iff hpos).mp hn
    obtain ⟨c', hc', -, -, hmessage'⟩ := (tells_pos_iff hpos').mp hk
    obtain rfl := Option.some.inj (hc.symm.trans hc')
    have hsaid := hmessage.symm.trans hmessage'
    exact Decimal.text_injective ((String.append_left_inj _).mp hsaid)

theorem nodup_names {s : MemoryStore} (hs : s.Sound) (hscoped : s.Scoped) (set : String) :
    ((s.labelled set).map Resource.name).Nodup := by
  refine List.Nodup.map_on (fun r hr r' hr' hname => hscoped.member_eq hs hr hr' hname) ?_
  exact .of_map _ (nodup_labelled hs set)

theorem perm_selected (s : MemoryStore) (set : Resource) :
    (s.selected set).Perm ((s.labelled set.name).map Resource.name) :=
  ((perm_sortBy _ _).filter _).map _

theorem nodup_selected {s : MemoryStore} (hs : s.Sound) (hscoped : s.Scoped) (set : Resource) :
    (s.selected set).Nodup := (perm_selected s set).nodup_iff.mpr (nodup_names hs hscoped set.name)

/-! ## What a set rests on -/

/-- **What a set rests on** between its turns: what its last rebuild selected
and what was rebuilt after it. -/
structure Published (w : Feed) (set : Resource) (selected : List String)
    (later : List (String × List String)) : Prop where
  /-- They were selected by the last rebuild for the set. -/
  last : lastRebuild set.name w.log = some (selected, later)
  nodup : selected.Nodup
  tells : Tells selected.length set
  /-- Whoever belongs to the set is one of them, or the set will hear of
  them. -/
  joined : ∀ name ∈ w.hub.store.selected set, name ∈ selected ∨ w.Names set.name
  /-- Each of them was taken since, or is cached under the set and still
  belongs to it, or is in a report to come. -/
  kept : ∀ name ∈ selected, Taken name later ∨
    (w.hub.cache.get? name = some set.name ∧
      (name ∈ w.hub.store.selected set ∨ w.Concerns name))
  /-- Whoever was taken has left the set, or the set will hear of them. -/
  left : ∀ name ∈ selected, Taken name later →
    name ∉ w.hub.store.selected set ∨ w.Names set.name

namespace Published

variable {w w' : Feed} {set : Resource} {selected : List String}
variable {later : List (String × List String)}

/-- A set rests on the same while members, rebuilds and what is cached under
it stay, and what it will hear of is still to come. -/
theorem mono (p : Published w set selected later) (hlog : w'.log = w.log)
    (hmem : ∀ r, r ∈ w'.hub.store.labelled set.name ↔ r ∈ w.hub.store.labelled set.name)
    (hnames : w.Names set.name → w'.Names set.name)
    (hcache : ∀ name, w.hub.cache.get? name = some set.name →
      w'.hub.cache.get? name = some set.name)
    (hconcerns : ∀ name, w.hub.cache.get? name = some set.name → w.Concerns name →
      w'.Concerns name) :
    Published w' set selected later := by
  have hselected (name : String) :
      name ∈ w'.hub.store.selected set ↔ name ∈ w.hub.store.selected set :=
    mem_selected_congr rfl hmem
  refine ⟨by rw [hlog]; exact p.last, p.nodup, p.tells, fun name hname => ?_, fun name hname => ?_,
    fun name hname htaken => ?_⟩
  · exact (p.joined name ((hselected name).mp hname)).imp_right hnames
  · refine (p.kept name hname).imp_right fun ⟨hcached, hwhere⟩ => ⟨hcache name hcached, ?_⟩
    exact hwhere.imp (hselected name).mpr (hconcerns name hcached)
  · exact (p.left name hname htaken).imp (fun h h' => h ((hselected name).mp h')) hnames

/-- **A change of a member** is a report to come: of the member if it left
the set, and one that names the set if it joined. -/
theorem of_member {change : Change} {store : MemoryStore} (p : Published w set selected later)
    (hs : w.hub.store.Sound) (changed : Changed .member change w.hub.store store) :
    Published ⟨{ w.hub with store := store }, w.news ++ [.member change], w.log⟩ set selected
      later := by
  let w' : Feed := ⟨{ w.hub with store := store }, w.news ++ [.member change], w.log⟩
  have hmore {item : News} (h : item ∈ w.news) : item ∈ w'.news :=
    List.mem_append_left _ h
  have hlast : News.member change ∈ w'.news :=
    List.mem_append_right _ (List.mem_singleton.mpr rfl)
  have hnames (h : w.Names set.name) : w'.Names set.name :=
    h.imp fun _ h => ⟨hmore h.1, h.2⟩
  -- whoever is selected now was selected before, or is the member of this change
  have hnew {name : String} (h : name ∈ store.selected set) :
      name ∈ w.hub.store.selected set ∨ w'.Names set.name := by
    obtain ⟨r, hr, hname⟩ := mem_selected.mp h
    rcases (changed.mem_labelled hs).mp hr with ⟨hstored, -, hset⟩ | ⟨-, hold⟩
    · cases change with
      | applied object =>
        obtain rfl := Option.some.inj hstored
        exact .inr ⟨_, hlast, hset⟩
      | deleted object => cases hstored
    · exact .inl (mem_selected.mpr ⟨r, hold, hname⟩)
  refine ⟨p.last, p.nodup, p.tells, fun name hname => ?_, fun name hname => ?_,
    fun name hname htaken => ?_⟩
  · rcases hnew hname with hold | hto
    · exact (p.joined name hold).imp_right hnames
    · exact .inr hto
  · refine (p.kept name hname).imp_right fun ⟨hcached, hwhere⟩ => ⟨hcached, ?_⟩
    rcases hwhere with hselected | hconcerns
    · obtain ⟨r, hr, rfl⟩ := mem_selected.mp hselected
      by_cases hkey : r.key = change.object.key
      · exact .inr ⟨change, hlast, (congrArg Key.name hkey).symm⟩
      · exact .inl (mem_selected.mpr ⟨r, (changed.mem_labelled hs).mpr (.inr ⟨hkey, hr⟩), rfl⟩)
    · exact .inr (hconcerns.imp fun _ h => ⟨hmore h.1, h.2⟩)
  · rcases p.left name hname htaken with hgone | hto
    · by_cases hnow : name ∈ store.selected set
      · exact .inr ((hnew hnow).resolve_left hgone)
      · exact .inl hnow
    · exact .inr (hnames hto)

/-- **A report of a member** that neither names the set nor is of a member
cached under it changes nothing for the set. -/
theorem of_heard {change : Change} {rest : List News} {hub : Hub MemoryStore}
    (p : Published w set selected later) (oldest : w.news = .member change :: rest)
    (hstore : hub.store = w.hub.store) (hcache : hub.cache = w.hub.cache.after change)
    (hnow : change.object.clusterSet? ≠ some set.name)
    (hbefore : w.hub.cache.get? change.object.name ≠ some set.name) :
    Published ⟨hub, rest, w.log⟩ set selected later := by
  -- the other reports are still to come
  have hrest {change' : Change} (h : News.member change' ∈ w.news) (hne : change' ≠ change) :
      News.member change' ∈ rest := by
    rw [oldest] at h
    rcases List.mem_cons.mp h with heq | h
    · exact absurd (News.member.inj heq) hne
    · exact h
  refine p.mono rfl (fun r => ?_) (fun hto => ?_) (fun name hcached => ?_)
    fun name hcached hconcerns => ?_
  · change r ∈ hub.store.labelled set.name ↔ _
    rw [hstore]
  · obtain ⟨change', hmem, hset⟩ := hto
    exact ⟨change', hrest hmem fun heq => hnow (heq ▸ hset), hset⟩
  · change hub.cache.get? name = _
    rw [hcache]
    cases change with
    | applied object => exact hcached
    | deleted object =>
      refine (Membership.get?_forget _ _ _).trans ((if_neg fun heq => ?_).trans hcached)
      exact hbefore (heq ▸ hcached)
  · obtain ⟨change', hmem, rfl⟩ := hconcerns
    exact ⟨change', hrest hmem fun heq => hbefore (heq ▸ hcached), rfl⟩

/-- **A rebuild for another set** takes the members that it selects. -/
theorem of_rebuild {other : Resource} {prune : Bool} {hub : Hub MemoryStore}
    (p : Published w set selected later) (hs : w.hub.store.Sound) (hscoped : w.hub.store.Scoped)
    (hc : w.hub.cache.Sound) (hne : other.name ≠ set.name)
    (hmem : ∀ r, r ∈ hub.store.labelled set.name ↔ r ∈ w.hub.store.labelled set.name)
    (hcache : hub.cache =
      (w.hub.cache.rebuild other.name (w.hub.store.selected other) prune).2) :
    Published ⟨hub, w.news, w.log ++ [(other.name, w.hub.store.selected other)]⟩ set selected
      (later ++ [(other.name, w.hub.store.selected other)]) := by
  have hselected (name : String) :
      name ∈ hub.store.selected set ↔ name ∈ w.hub.store.selected set :=
    mem_selected_congr rfl hmem
  refine ⟨?_, p.nodup, p.tells, fun name hname => ?_, fun name hname => ?_,
    fun name hname htaken => ?_⟩
  · exact (lastRebuild_append_of_ne hne w.log).trans (by rw [p.last, Option.map_some])
  · exact p.joined name ((hselected name).mp hname)
  · by_cases hother : name ∈ w.hub.store.selected other
    · exact .inl (taken_append.mpr (.inr hother))
    · refine (p.kept name hname).imp (fun h => taken_append.mpr (.inl h)) ?_
      rintro ⟨hcached, hwhere⟩
      refine ⟨?_, hwhere.imp_left (hselected name).mpr⟩
      change hub.cache.get? name = _
      rw [hcache, hc.get?_rebuild, if_neg hother, if_neg, hcached]
      rintro ⟨-, hget⟩
      exact hne (Option.some.inj (hget.symm.trans hcached))
  · rcases taken_append.mp htaken with htaken | hother
    · exact (p.left name hname htaken).imp_left fun h h' => h ((hselected name).mp h')
    · -- whom the other set selects carries its label, so not the label of this one
      refine .inl fun hnow => ?_
      obtain ⟨r, hr, rfl⟩ := mem_selected.mp ((hselected name).mp hnow)
      obtain ⟨r', hr', hname'⟩ := mem_selected.mp hother
      obtain rfl := hscoped.member_eq hs hr' hr hname'
      have hset := ((mem_labelled hs).mp hr').2
      rw [((mem_labelled hs).mp hr).2] at hset
      exact hne (Option.some.inj hset).symm

/-- **A set that was brought up to date** rests on what was just selected. -/
theorem of_settled {key : Key} {stored : Resource} {prune : Bool} {hub : Hub MemoryStore}
    (hs : w.hub.store.Sound) (hscoped : w.hub.store.Scoped) (hc : w.hub.cache.Sound)
    (found : w.hub.store.object? .set key = some stored)
    (settled : Settled key stored (w.hub.store.selected stored).length w.hub.store hub.store)
    (hcache : hub.cache =
      (w.hub.cache.rebuild stored.name (w.hub.store.selected stored) prune).2)
    (after : hub.store.object? .set key = some set) :
    Published ⟨hub, w.news, w.log ++ [(stored.name, w.hub.store.selected stored)]⟩ set
      (w.hub.store.selected stored) [] := by
  have frame := SyncFrame.of_settled found settled
  have hsame (key' : Key) : hub.store.object? .member key' = w.hub.store.object? .member key' :=
    frame.others fun heq => nomatch (Prod.mk.inj heq).1
  obtain ⟨set', hset', htells, -⟩ := settled.tells
  obtain rfl := Option.some.inj (after.symm.trans hset')
  have hname : set.name = stored.name :=
    congrArg Key.name ((frame.later.sound.found after).1.trans (hs.found found).1.symm)
  have hselected (name : String) :
      name ∈ hub.store.selected set ↔ name ∈ w.hub.store.selected stored :=
    mem_selected_congr hname fun _ => mem_labelled_congr hs frame.later.sound hsame
  refine ⟨lastRebuild_append_self hname.symm w.log, nodup_selected hs hscoped stored, htells,
    fun name h => .inl ((hselected name).mp h), fun name h => .inr ⟨?_, .inl ((hselected name).mpr h)⟩,
    ?_⟩
  · change hub.cache.get? name = _
    rw [hcache, hc.get?_rebuild, if_pos h, hname]
  · rintro name - ⟨_, hnone, -⟩
    cases hnone

/-- **With nothing left to report**, the status is right exactly if nobody
was taken. -/
theorem tells_iff (p : Published w set selected later) (hs : w.hub.store.Sound)
    (hscoped : w.hub.store.Scoped) (hquiet : w.news = []) :
    Tells (w.hub.store.labelled set.name).length set ↔ ¬∃ name ∈ selected, Taken name later := by
  have hnames : ¬w.Names set.name := by
    rintro ⟨change, hmem, -⟩
    rw [hquiet] at hmem
    cases hmem
  have hconcerns (name : String) : ¬w.Concerns name := by
    rintro ⟨change, hmem, -⟩
    rw [hquiet] at hmem
    cases hmem
  -- nobody has joined since, so the two selections are the same if they are of one length
  have hsub : w.hub.store.selected set ⊆ selected :=
    fun name hname => (p.joined name hname).resolve_right hnames
  have hnodup := nodup_selected hs hscoped set
  have hlength : Tells (w.hub.store.labelled set.name).length set ↔
      (w.hub.store.selected set).length = selected.length := by
    rw [← length_selected]
    exact ⟨fun h => h.unique p.tells, fun h => h ▸ p.tells⟩
  rw [hlength]
  constructor
  · rintro hlen ⟨name, hname, htaken⟩
    have hgone := (p.left name hname htaken).resolve_right hnames
    have hperm := (List.subperm_of_subset hnodup hsub).perm_of_length_le (Nat.le_of_eq hlen.symm)
    exact hgone (hperm.mem_iff.mpr hname)
  · intro hnobody
    have hback : selected ⊆ w.hub.store.selected set := by
      intro name hname
      have htaken : ¬Taken name later := fun h => hnobody ⟨name, hname, h⟩
      exact ((p.kept name hname).resolve_left htaken).2.resolve_right (hconcerns name)
    exact Nat.le_antisymm (List.subperm_of_subset hnodup hsub).length_le
      (List.subperm_of_subset p.nodup hback).length_le

end Published

/-! ## What a fleet keeps -/

/-- **What a fleet keeps** while its watch lags behind: its parts are sound,
and every live set awaits its turn, or was put and will hear of it, or rests
on its last rebuild. -/
structure FeedSound (w : Feed) : Prop where
  store : w.hub.store.Sound
  cluster : w.hub.store.Scoped
  reads : w.hub.store.readFaults = []
  writes : w.hub.store.writeFaults = []
  cache : w.hub.cache.Sound
  queue : w.hub.queue.Sound
  closed : w.hub.queue.closed = false
  /-- No set is without a reason to be right, unless a key was dropped or a
  turn was broken off. -/
  minded : w.hub.queue.dropped = 0 → w.hub.queue.processing = [] → ∀ {key : Key} {set : Resource},
    w.hub.store.object? .set key = some set → set.isDeleting = false →
      w.hub.Awaits key ∨ w.Announces key ∨ ∃ selected later, Published w set selected later

/-- Who lets go of no key and works on none has not worked on any. -/
theorem Hub.Grows.idle {h h' : Hub MemoryStore} (grows : h.Grows h')
    (hidle : h'.queue.processing = []) : h.queue.processing = [] := by
  refine List.eq_nil_iff_forall_not_mem.mpr fun k hk => ?_
  have := grows.processing k hk
  rw [hidle] at this
  cases this

theorem Hub.Turned.idle {h h' : Hub MemoryStore} {key : Key} {rest : List Key}
    (turned : h.Turned key h') (hq : h.queue.Sound) (waits : h.queue.order = key :: rest)
    (hidle : h'.queue.processing = []) : h.queue.processing = [] := by
  refine List.eq_nil_iff_forall_not_mem.mpr fun k hk => ?_
  have hne : k ≠ key := by
    rintro rfl
    exact hq.not_processing k (waits ▸ List.mem_cons_self) hk
  have := turned.processing k hk hne
  rw [hidle] at this
  cases this

namespace FeedSound

variable {settings : Settings} {w : Feed} {hub : Hub MemoryStore} {change : Change}

theorem start (capacity : Nat) (calendar : Instant) : FeedSound (.start capacity calendar) where
  store := sound_empty
  cluster := fun _ _ _ h => nomatch h
  reads := rfl
  writes := rfl
  cache := Membership.sound_empty
  queue := WorkQueue.sound_withCapacity capacity
  closed := rfl
  minded := fun _ _ _ _ h => nomatch h

/-- A change of a member is to be reported. -/
theorem of_member (hsound : FeedSound w) {store : MemoryStore}
    (reported : Reported .member w.hub.store change store) :
    FeedSound ⟨{ w.hub with store := store }, w.news ++ [.member change], w.log⟩ := by
  have changed := reported.changed hsound.store hsound.cluster
  refine ⟨changed.sound, changed.scoped hsound.cluster, changed.readFaults.trans hsound.reads,
    changed.writeFaults.trans hsound.writes, hsound.cache, hsound.queue, hsound.closed,
    fun hdropped hidle key set hset hlive => ?_⟩
  have hother : (Kind.member, change.object.key) ≠ (Kind.set, key) :=
    fun heq => nomatch (Prod.mk.inj heq).1
  have hbefore := (changed.elsewhere hother).symm.trans hset
  rcases hsound.minded hdropped hidle hbefore hlive with hawaits | ⟨object, hput, hkey⟩ |
    ⟨selected, later, published⟩
  · exact .inl hawaits
  · exact .inr (.inl ⟨object, List.mem_append_left _ hput, hkey⟩)
  · exact .inr (.inr ⟨selected, later, published.of_member hsound.store changed⟩)

/-- A set that was put is to be reported. -/
theorem of_put (hsound : FeedSound w) {r : Resource} (cluster : r.metadata.ns = none) :
    FeedSound ⟨{ w.hub with store := (w.hub.store.put .set r).2 },
      w.news ++ [.set (w.hub.store.put .set r).1], w.log⟩ := by
  have reported : Reported .set w.hub.store _ (w.hub.store.put .set r).2 := .put cluster
  have changed := reported.changed hsound.store hsound.cluster
  refine ⟨changed.sound, changed.scoped hsound.cluster, changed.readFaults.trans hsound.reads,
    changed.writeFaults.trans hsound.writes, hsound.cache, hsound.queue, hsound.closed,
    fun hdropped hidle key set hset hlive => ?_⟩
  by_cases hkey : (w.hub.store.put .set r).1.key = key
  · exact .inr (.inl ⟨_, List.mem_append_right _ (List.mem_singleton.mpr rfl), hkey⟩)
  · have hother : (Kind.set, (w.hub.store.put .set r).1.key) ≠ (Kind.set, key) :=
      fun heq => hkey (Prod.mk.inj heq).2
    have hbefore := (changed.elsewhere hother).symm.trans hset
    have hmembers (key' : Key) : (w.hub.store.put .set r).2.object? .member key' =
        w.hub.store.object? .member key' :=
      changed.elsewhere fun heq => nomatch (Prod.mk.inj heq).1
    rcases hsound.minded hdropped hidle hbefore hlive with hawaits | ⟨object, hput, hat⟩ |
      ⟨selected, later, published⟩
    · exact .inl hawaits
    · exact .inr (.inl ⟨object, List.mem_append_left _ hput, hat⟩)
    · refine .inr (.inr ⟨selected, later, published.mono rfl
        (fun _ => mem_labelled_congr hsound.store changed.sound hmembers) (fun hto => ?_)
        (fun _ hcached => hcached) fun _ _ hconcerns => ?_⟩)
      · exact hto.imp fun _ h => ⟨List.mem_append_left _ h.1, h.2⟩
      · exact hconcerns.imp fun _ h => ⟨List.mem_append_left _ h.1, h.2⟩

/-- Where nothing is written, only what the sets rest on may be another. -/
theorem of_unwritten (hsound : FeedSound w) {news : List News} {log : List (String × List String)}
    (hstore : hub.store = w.hub.store) (cached : hub.cache.Sound) (queue : hub.queue.Sound)
    (opened : hub.queue.closed = false)
    (minded : hub.queue.dropped = 0 → hub.queue.processing = [] → ∀ {key : Key} {set : Resource},
      w.hub.store.object? .set key = some set → set.isDeleting = false →
        hub.Awaits key ∨ Feed.Announces ⟨hub, news, log⟩ key ∨
          ∃ selected later, Published ⟨hub, news, log⟩ set selected later) :
    FeedSound ⟨hub, news, log⟩ := by
  refine ⟨hstore ▸ hsound.store, hstore ▸ hsound.cluster, hstore ▸ hsound.reads,
    hstore ▸ hsound.writes, cached, queue, opened, fun hdropped hidle key set hset hlive => ?_⟩
  change hub.store.object? .set key = some set at hset
  rw [hstore] at hset
  exact minded hdropped hidle hset hlive

/-- A change of a member is reported: the sets it concerns await their
turn. -/
theorem of_heard_member (hsound : FeedSound w) {rest : List News} {calls : List Call}
    {ending : Hub.Ending Unit} (oldest : w.news = .member change :: rest)
    (run : Runs (Runner.onMember change) w.hub calls ending hub) :
    FeedSound ⟨hub, rest, w.log⟩ := by
  obtain ⟨-, -, added⟩ := onMember_ends hsound.queue hsound.closed run
  have hstore : hub.store = w.hub.store := added.store
  have hcache : hub.cache = w.hub.cache.after change := added.cache
  refine hsound.of_unwritten hstore (hcache ▸ hsound.cache.after change) added.grows.sound
    added.grows.closed fun hdropped hidle key set hset hlive => ?_
  obtain ⟨hzero, hsame⟩ := added.grows.kept hdropped
  have hkey := (hsound.cluster.key_eq hsound.store hset).1
  rcases hsound.minded hzero (added.grows.idle hidle) hset hlive with hawaits |
    ⟨object, hput, hat⟩ | ⟨selected, later, published⟩
  · exact .inl (added.grows.awaits hsame key hawaits)
  · rw [oldest] at hput
    rcases List.mem_cons.mp hput with heq | hput
    · cases heq
    · exact .inr (.inl ⟨object, hput, hat⟩)
  · -- a set that the change does not concern rests on what it rested on
    by_cases hconcerned : change.object.clusterSet? = some set.name ∨
        w.hub.cache.get? change.object.name = some set.name
    · exact .inl (added.awaits hsame key (mem_concerned.mpr ⟨set.name, hkey, hconcerned⟩))
    · obtain ⟨hnow, hcached⟩ := not_or.mp hconcerned
      exact .inr (.inr ⟨selected, later,
        published.of_heard oldest hstore hcache hnow hcached⟩)

/-- A set that was put is reported: it awaits its turn. -/
theorem of_heard_set (hsound : FeedSound w) {object : Resource} {rest : List News}
    {calls : List Call} {ending : Hub.Ending Unit} (oldest : w.news = .set object :: rest)
    (run : Runs (Runner.onSet (.applied object)) w.hub calls ending hub) :
    FeedSound ⟨hub, rest, w.log⟩ := by
  obtain ⟨-, -, added⟩ := onSet_ends hsound.queue hsound.closed run
  have hstore : hub.store = w.hub.store := added.store
  have hcache : hub.cache = w.hub.cache := added.cache
  refine hsound.of_unwritten hstore (hcache ▸ hsound.cache) added.grows.sound added.grows.closed
    fun hdropped hidle key set hset hlive => ?_
  obtain ⟨hzero, hsame⟩ := added.grows.kept hdropped
  have hrest {change' : Change} (h : News.member change' ∈ w.news) : .member change' ∈ rest := by
    rw [oldest] at h
    exact (List.mem_cons.mp h).resolve_left fun heq => nomatch heq
  -- what the set rested on is still there, or it was the report just heard
  rcases hsound.minded hzero (added.grows.idle hidle) hset hlive with hawaits |
    ⟨object', hput, hat⟩ | ⟨selected, later, published⟩
  · exact .inl (added.grows.awaits hsame key hawaits)
  · rw [oldest] at hput
    rcases List.mem_cons.mp hput with heq | hput
    · obtain rfl := News.set.inj heq
      exact .inl (added.awaits hsame key (List.mem_singleton.mpr hat.symm))
    · exact .inr (.inl ⟨object', hput, hat⟩)
  · refine .inr (.inr ⟨selected, later, published.mono rfl (fun r => ?_) (fun hto => ?_)
      (fun name hcached => ?_) fun name _ hconcerns => ?_⟩)
    · change r ∈ hub.store.labelled set.name ↔ _
      rw [hstore]
    · exact hto.imp fun _ h => ⟨hrest h.1, h.2⟩
    · exact (congrArg (·.get? name) hcache).trans hcached
    · exact hconcerns.imp fun _ h => ⟨hrest h.1, h.2⟩

section Turn

variable {key : Key} {log : List (String × List String)} {set : Resource} {prune : Bool}

/-- Without faults nothing fails. -/
theorem not_planted (hsound : FeedSound w) (e : StoreError) : ¬Planted w.hub.store e := by
  rintro ⟨fault, hfault | hfault, -⟩
  · rw [hsound.reads] at hfault
    cases hfault
  · rw [hsound.writes] at hfault
    cases hfault

/-- The set that had its turn rests on what was just selected. -/
theorem own_turn (hsound : FeedSound w) {result : Except StoreError SyncOutcome}
    (ends : SyncEnds prune key w.hub.store hub.store w.hub.cache hub.cache log (.result result))
    (after : hub.store.object? .set key = some set) (live : set.isDeleting = false) :
    ∃ selected later, Published ⟨hub, w.news, w.log ++ log⟩ set selected later := by
  obtain ⟨before, hbefore⟩ := (ends.frame hsound.store).known after
  cases ends with
  | idle outcome same kept nothing =>
    rw [same.object?] at after
    rw [nothing set after] at live
    cases live
  | failed e same kept cause =>
    exact absurd (cause (hsound.cluster _ _ _ hbefore)) (hsound.not_planted e)
  | refused e found live' same rebuilt cause => exact absurd cause (hsound.not_planted e)
  | reconciled outcome found live' settled rebuilt =>
    exact ⟨_, _, .of_settled hsound.store hsound.cluster hsound.cache found settled rebuilt after⟩

/-- The other sets rest on what they rested on, but members may have been
taken. -/
theorem other_turn (hsound : FeedSound w)
    {ending : Hub.Ending (Except StoreError SyncOutcome)} {selected : List String}
    {later : List (String × List String)} (published : Published w set selected later)
    (ends : SyncEnds prune key w.hub.store hub.store w.hub.cache hub.cache log ending)
    (hne : key ≠ .cluster set.name) :
    ∃ selected later, Published ⟨hub, w.news, w.log ++ log⟩ set selected later := by
  have frame := ends.frame hsound.store
  have hmem (r : Resource) :
      r ∈ hub.store.labelled set.name ↔ r ∈ w.hub.store.labelled set.name :=
    mem_labelled_congr hsound.store frame.later.sound fun key' =>
      frame.others fun heq => nomatch (Prod.mk.inj heq).1
  obtain ⟨rfl, hcache⟩ | ⟨other, hother, rfl, hcache⟩ := ends.rebuilt
  · refine ⟨selected, later, published.mono (List.append_nil _) hmem id (fun name hcached => ?_)
      fun _ _ hconcerns => hconcerns⟩
    exact (congrArg (·.get? name) hcache).trans hcached
  · have hname : other.name ≠ set.name := fun heq =>
      hne ((hsound.cluster.key_eq hsound.store hother).1.trans (congrArg Key.cluster heq))
    exact ⟨_, _, published.of_rebuild hsound.store hsound.cluster hsound.cache hname hmem hcache⟩

/-- What a reconciliation keeps, whatever becomes of the sets. -/
theorem of_sync (hsound : FeedSound w) {ending : Hub.Ending (Except StoreError SyncOutcome)}
    (ends : SyncEnds prune key w.hub.store hub.store w.hub.cache hub.cache log ending)
    (turned : w.hub.Turned key hub)
    (minded : hub.queue.dropped = 0 → hub.queue.processing = [] →
      ∀ {key' : Key} {set : Resource}, hub.store.object? .set key' = some set →
        set.isDeleting = false → hub.Awaits key' ∨ w.Announces key' ∨
          ∃ selected later, Published ⟨hub, w.news, w.log ++ log⟩ set selected later) :
    FeedSound ⟨hub, w.news, w.log ++ log⟩ := by
  have frame := ends.frame hsound.store
  refine ⟨frame.later.sound, fun kind key' r hr => ?_, ?_, ?_, ?_, turned.sound, turned.closed,
    minded⟩
  · obtain ⟨r', hr'⟩ := frame.known hr
    exact hsound.cluster kind key' r' hr'
  · exact List.suffix_nil.mp (hsound.reads ▸ frame.readFaults)
  · exact List.suffix_nil.mp (hsound.writes ▸ frame.writeFaults)
  · obtain ⟨-, heq⟩ | ⟨set, -, -, heq⟩ := ends.rebuilt
    · exact heq ▸ hsound.cache
    · exact heq ▸ hsound.cache.rebuild

/-- A turn gives the set of its key something to rest on, and the others what
they rested on; one that is broken off is never finished. -/
theorem of_turn (hsound : FeedSound w) {calls : List Call} {ending : Hub.Ending Bool}
    (run : Runs (Runner.processNext settings) w.hub calls ending hub) :
    FeedSound ⟨hub, w.news, w.log ++ rebuilds calls⟩ := by
  have hturn := processNext_ends hsound.store hsound.queue hsound.closed run
  generalize rebuilds calls = log at hturn
  cases hturn with
  | stuck empty same =>
    rw [List.append_nil, same]
    exact hsound
  | @late key rest span waits limit beyond hstore hcache turned held =>
    rw [List.append_nil]
    refine hsound.of_unwritten hstore (hcache ▸ hsound.cache) turned.sound turned.closed
      fun _ hidle => ?_
    rw [hidle] at held
    cases held
  -- a turn that is broken off holds its key for good, so the queue is never idle again
  | broken waits ends turned held =>
    refine hsound.of_sync ends turned fun _ hidle => ?_
    rw [hidle] at held
    cases held
  | @worked key rest result _ waits ends turned again =>
    refine hsound.of_sync ends turned fun hdropped hidle key' set hset hlive => ?_
    obtain ⟨hzero, hsame⟩ := turned.kept hdropped
    by_cases hkey : key' = key
    · exact .inr (.inr (hsound.own_turn ends (hkey ▸ hset) hlive))
    · have frame := ends.frame hsound.store
      have hbefore := (frame.others fun heq => hkey (Prod.mk.inj heq).2.symm).symm.trans hset
      rcases hsound.minded hzero (turned.idle hsound.queue waits hidle) hbefore hlive with hawaits |
        hput | ⟨selected, later, published⟩
      · exact .inl (turned.awaits hsame key' hkey hawaits)
      · exact .inr (.inl hput)
      · refine .inr (.inr (hsound.other_turn published ends ?_))
        exact fun heq => hkey ((hsound.cluster.key_eq hsound.store hbefore).1.trans heq.symm)

end Turn

/-- **Every step** keeps the fleet sound. -/
theorem step {w' : Feed} (hsound : FeedSound w) (step : FeedStep settings w w') : FeedSound w' := by
  cases step with
  | member reported => exact hsound.of_member reported
  | set cluster => exact hsound.of_put cluster
  | @heard item rest _ _ _ oldest run =>
    cases item with
    | member change => exact hsound.of_heard_member oldest run
    | set object => exact hsound.of_heard_set oldest run
  | turn run => exact hsound.of_turn run

theorem run {capacity : Nat} {calendar : Instant}
    (run : FeedRun settings (.start capacity calendar) w) : FeedSound w := by
  induction run with
  | start => exact start capacity calendar
  | step _ step ih => exact ih.step step

end FeedSound

/-- **What a quiet fleet tells.** When everything was reported and worked off
and no key was dropped, the status of a live set tells how many members it
has exactly if the set was not overtaken: if no member that its last rebuild
selected was selected by a later rebuild, for another set. -/
theorem quiet_tells_iff {settings : Settings} {capacity : Nat} {calendar : Instant} {w : Feed}
    (run : FeedRun settings (.start capacity calendar) w) (quiet : w.IsQuiet) {key : Key}
    {set : Resource} (stored : w.hub.store.object? .set key = some set)
    (live : set.isDeleting = false) :
    Tells (w.hub.store.labelled set.name).length set ↔ ¬Overtaken set.name w.log := by
  have hsound := FeedSound.run run
  rcases hsound.minded quiet.kept quiet.idle stored live with ((hwaits | hmarked) | ⟨d, hd, -⟩) |
    ⟨object, hput, -⟩ | ⟨selected, later, published⟩
  · rw [quiet.empty] at hwaits
    cases hwaits
  · have hheld := hsound.queue.dirty_processing key hmarked
    rw [quiet.idle] at hheld
    cases hheld
  · rw [quiet.settled] at hd
    cases hd
  · rw [quiet.reported] at hput
    cases hput
  · rw [published.tells_iff hsound.store hsound.cluster quiet.reported]
    refine not_congr ⟨fun htaken => ⟨selected, later, published.last, htaken⟩, ?_⟩
    rintro ⟨selected', later', hlast, htaken⟩
    obtain ⟨rfl, rfl⟩ := Prod.mk.inj (Option.some.inj (published.last.symm.trans hlast))
    exact htaken

namespace Scene

/-- A set of a name. -/
def setNamed (name : String) : Resource := ⟨⟨name, none, none, none, [], none⟩, []⟩

/-- The member, with a label that names a set. -/
def memberOf (set : String) : Resource :=
  ⟨⟨"m", none, none, none, [(Resource.setLabel, set)], none⟩, []⟩

/-- A set has one member, and everything was reported and worked off. -/
def joined : Scene :=
  (start 2).putSet (setNamed "a") |>.putMember (memberOf "a") |>.hear |>.hear |>.work .standard

/-- The member moves to another set, which was just put. -/
def moved : Scene := joined.putSet (setNamed "b") |>.putMember (memberOf "b")

/-- The move is reported before the runner works again. -/
def followed : Scene := moved.hear.hear.work .standard |>.work .standard

/-- The runner works before the move is reported. -/
def overtaking : Scene := moved.hear.work .standard |>.hear |>.work .standard |>.work .standard

theorem reached_moved : moved.Reached .standard 2 :=
  (reached_start .standard 2).putSet rfl |>.putMember rfl |>.hear |>.hear |>.work
    |>.putSet rfl |>.putMember rfl

/-- Whether the scene is quiet, and what it tells of a set: whether there is
a live one, and whether its status is right. -/
def outcome (set : String) (x : Scene) : Bool × Option (Bool × Bool) :=
  (x.news = [] ∧ x.hub.queue.order = [] ∧ x.hub.queue.processing = [] ∧ x.hub.queue.dropped = 0 ∧
    x.hub.delayed = [],
  (x.hub.store.object? .set (.cluster set)).map fun stored =>
    (!stored.isDeleting, Tells (x.hub.store.labelled stored.name).length stored))

theorem quiet_of_outcome {x : Scene} {set : String} {live right : Bool}
    {log : List (String × List String)} (h : x.outcome set = (true, some (live, right))) :
    Feed.IsQuiet ⟨x.hub, x.news, log⟩ ∧ ∃ stored,
      x.hub.store.object? .set (.cluster set) = some stored ∧ stored.isDeleting = !live ∧
        decide (Tells (x.hub.store.labelled stored.name).length stored) = right := by
  obtain ⟨hquiet, hset⟩ := Prod.mk.inj h
  obtain ⟨hnews, horder, hwork, hdropped, hdelayed⟩ := of_decide_eq_true hquiet
  obtain ⟨stored, hstored, hparts⟩ := Option.map_eq_some_iff.mp hset
  obtain ⟨hlive, hright⟩ := Prod.mk.inj hparts
  exact ⟨⟨hnews, horder, hwork, hdropped, hdelayed⟩, stored, hstored,
    Bool.not_eq_eq_eq_not.mp hlive, hright⟩

end Scene

/-- The set that the member left is right when the move is reported before the
runner works again. -/
theorem quiet_tells_iff_followed : ∃ w set,
    FeedRun .standard (.start 2 Instant.epoch) w ∧ w.IsQuiet ∧
      w.hub.store.object? .set (.cluster "a") = some set ∧ set.isDeleting = false ∧
      ¬Overtaken set.name w.log := by
  obtain ⟨log, run⟩ := Scene.reached_moved.hear.hear.work.work
  have outcome : Scene.followed.outcome "a" = (true, some (true, true)) := by decide +kernel
  obtain ⟨quiet, set, stored, live, right⟩ := Scene.quiet_of_outcome outcome
  exact ⟨_, set, run, quiet, stored, live,
    (quiet_tells_iff run quiet stored live).mp (of_decide_eq_true right)⟩

/-- **A set that was overtaken stays stale**: the member left it, everything
was reported and worked off, and its status still tells of one member. -/
theorem stale_once_overtaken : ∃ w set,
    FeedRun .standard (.start 2 Instant.epoch) w ∧ w.IsQuiet ∧
      w.hub.store.object? .set (.cluster "a") = some set ∧ set.isDeleting = false ∧
      ¬Tells (w.hub.store.labelled set.name).length set := by
  obtain ⟨log, run⟩ := Scene.reached_moved.hear.work.hear.work.work
  have outcome : Scene.overtaking.outcome "a" = (true, some (true, false)) := by decide +kernel
  obtain ⟨quiet, set, stored, live, wrong⟩ := Scene.quiet_of_outcome outcome
  exact ⟨_, set, run, quiet, stored, live, of_decide_eq_false wrong⟩

end ClusterFleet
