import ClusterFleet.Proofs.Sync.Sweep

/-!
# Sync — the order of reconciliations

Sets may be reconciled in any order: the cache, and the stored objects but
for versions and times, come out the same (`reconciling_commutes`). What is
told on the way may not. Members join a set in either order, but a member
that moved from one set to another is told to have left the first only if
the first is reconciled before the second has pointed the member at itself
(`churn_in_either_order`, `departure_goes_untold`).
-/

namespace ClusterFleet

open MemoryStore Program

/-- Reconciling the sets of several keys, one after another. -/
def ClusterSet.reconcileEach (prune : Bool) (policy : RetryPolicy) (deadline : Option Moment)
    (keys : List Key) : Program Unit :=
  each (fun key => (ClusterSet.reconcile prune policy deadline key).bind fun _ => done ()) keys

section Order

variable {prune : Bool} {policy : RetryPolicy} {deadline : Option Moment} {keys keys' : List Key}
variable {h h' h₁ h₂ : Hub MemoryStore} {calls calls₁ calls₂ : List Call}

/-- **Reconciling several sets sweeps their keys.** -/
theorem swept_of_run (hs : h.store.Sound) (hf : h.store.Faultless)
    (hscoped : h.store.ClusterScoped .member) (hc : h.cache.Sound)
    (hns : ∀ key ∈ keys, key.ns = none)
    (run : Runs (ClusterSet.reconcileEach prune policy deadline keys) h calls (.result ()) h') :
    Swept prune keys h.store h'.store h.cache h'.cache := by
  induction keys generalizing h calls with
  | nil =>
    obtain ⟨-, -, rfl⟩ := run.of_done
    exact .of_inspected hs hf hc (.refl _)
  | cons key rest ih =>
    cases run.of_bind with
    | both first later =>
      cases first.of_bind with
      | both sync ended =>
        obtain ⟨-, -, rfl⟩ := ended.of_done
        obtain ⟨-, told, -, hends⟩ := reconcile_quiet hs hf (hns key List.mem_cons_self) sync
        have hfirst := Swept.of_ends hs hf hscoped hc hends
        -- the rest starts from what the first left, where the same still holds
        have hrest := ih hfirst.sound hfirst.faultless (hfirst.clusterScoped hscoped) hfirst.cached
          (fun key hkey => hns key (List.mem_cons_of_mem _ hkey)) later
        exact hfirst.trans hrest

/-- **Reconciling sets commutes.** Where no fault is planted and members
live in no namespace, the sets of some keys may be reconciled in any two
orders: the cache comes out the same, and so does every stored object, but
for versions and the times of conditions. In the cache every member whose
label names one of the live sets is under it; any other member stays where
it was, but is dropped when pruning if it was under one of them. -/
theorem reconciling_commutes (sound : h.store.Sound) (faultless : h.store.Faultless)
    (clustered : h.store.ClusterScoped .member) (cached : h.cache.Sound)
    (named : ∀ key ∈ keys, key.ns = none) (perm : keys.Perm keys')
    (run₁ : Runs (ClusterSet.reconcileEach prune policy deadline keys) h calls₁ (.result ()) h₁)
    (run₂ : Runs (ClusterSet.reconcileEach prune policy deadline keys') h calls₂ (.result ()) h₂) :
    h₁.cache = h₂.cache ∧
      (∀ kind key, (h₁.store.object? kind key).map Resource.timeless =
        (h₂.store.object? kind key).map Resource.timeless) ∧
      Membership.Follows prune h.store.labelOf (h.store.LiveAmong keys) h.cache h₁.cache := by
  have hfirst := swept_of_run sound faultless clustered cached named run₁
  have hother := swept_of_run sound faultless clustered cached
    (fun key hkey => named key (perm.mem_iff.mpr hkey)) run₂
  obtain ⟨hcache, hobjects⟩ := hfirst.unique (hother.congr fun key => perm.symm.mem_iff)
  exact ⟨hcache, hobjects, hfirst.follows⟩

/-- Two sets, `a` and `b`, and a member that was last seen in `a` and whose
label names `b`. -/
def Hub.moved : Hub MemoryStore :=
  let a := MemoryStore.empty.put .set ⟨⟨"a", none, none, none, [], none⟩, []⟩
  let b := a.2.put .set ⟨⟨"b", none, none, none, [], none⟩, []⟩
  let m := b.2.put .member ⟨⟨"m", none, none, none, [(Resource.setLabel, "b")], none⟩, []⟩
  { Hub.start m.2 1 Instant.epoch with cache := Membership.empty.insert "m" "a" }

namespace Hub.moved

theorem sound : moved.store.Sound :=
  ((sound_empty.put .set _).put .set _).put .member _

theorem faultless : moved.store.Faultless := ⟨rfl, rfl⟩

theorem clusterScoped : moved.store.ClusterScoped .member := by
  unfold ClusterScoped
  decide +kernel

theorem cached : moved.cache.Sound := Fields.Sorted.insert List.Pairwise.nil

end Hub.moved

/-- The member that moved ends under the set that its label names, whichever
set is reconciled first. -/
theorem reconciling_commutes_moved : ∃ h₁ h₂ calls₁ calls₂,
    Runs (ClusterSet.reconcileEach true .standard none [.cluster "a", .cluster "b"]) Hub.moved calls₁
        (.result ()) h₁ ∧
      Runs (ClusterSet.reconcileEach true .standard none [.cluster "b", .cluster "a"]) Hub.moved
        calls₂ (.result ()) h₂ ∧
      h₁.cache = h₂.cache ∧ h₁.cache.get? "m" = some "b" := by
  let sync (keys : List Key) := ClusterSet.reconcileEach true .standard none keys
  obtain ⟨calls₁, run₁⟩ : ∃ calls, Runs (sync [.cluster "a", .cluster "b"]) Hub.moved calls _ _ :=
    Runs.of_result (a := ()) (by decide +kernel)
  obtain ⟨calls₂, run₂⟩ : ∃ calls, Runs (sync [.cluster "b", .cluster "a"]) Hub.moved calls _ _ :=
    Runs.of_result (a := ()) (by decide +kernel)
  have hlive : Hub.moved.store.LiveAmong [.cluster "a", .cluster "b"] "b" := by
    refine ⟨.cluster "b", by decide, _, rfl, by decide +kernel, by decide +kernel⟩
  obtain ⟨hcache, -, hfollows⟩ := reconciling_commutes Hub.moved.sound Hub.moved.faultless
    Hub.moved.clusterScoped Hub.moved.cached (by decide) (.swap _ _ []) run₁ run₂
  exact ⟨_, _, _, _, run₁, run₂, hcache, hfollows.points (by decide +kernel) hlive⟩

/-! ## What is told -/

/-- A reconciliation tells who joined and who left. -/
def Reports (result : Except StoreError SyncOutcome) (churn : Churn) : Prop :=
  ∃ selected updated, result = .ok (.reconciled selected churn updated)

/-- A live set is reconciled by one rebuild of the cache, whose churn is
told. -/
theorem reconcile_live {key : Key} {set : Resource} {result : Except StoreError SyncOutcome}
    (hs : h.store.Sound) (hf : h.store.Faultless) (hns : key.ns = none)
    (found : h.store.object? .set key = some set) (live : set.isDeleting = false)
    (run : Runs (ClusterSet.reconcile prune policy deadline key) h calls (.result result) h') :
    Reports result (h.cache.rebuild set.name (h.store.selected set) prune).1 ∧
      h'.cache = (h.cache.rebuild set.name (h.store.selected set) prune).2 ∧
      h'.events = h.events ++ ClusterSet.churnEvents set.name
        (h.cache.rebuild set.name (h.store.selected set) prune).1 prune ∧
      Refreshes key (h.store.labelled set.name).length set h.store h'.store := by
  obtain ⟨-, told, hevents, hends⟩ := reconcile_quiet hs hf hns run
  cases hends with
  | missing gone same kept => cases gone.symm.trans found
  | deleting found' marked same kept =>
    obtain rfl := Option.some.inj (found.symm.trans found')
    cases marked.symm.trans live
  | reconciled updated found' live' rebuilt refreshes =>
    obtain rfl := Option.some.inj (found.symm.trans found')
    rw [rebuilt]
    exact ⟨⟨_, updated, rfl⟩, rfl, hevents, refreshes⟩

/-- Sets under different keys have different names, since the keys are those
of the names. -/
theorem name_ne_of_key_ne {s : MemoryStore} {key other : Key} {set set' : Resource} (hs : s.Sound)
    (hns : key.ns = none) (hns' : other.ns = none) (found : s.object? .set key = some set)
    (found' : s.object? .set other = some set') (hne : key ≠ other) : set.name ≠ set'.name := by
  intro heq
  have hkey := (hs.found found).1
  have hkey' := (hs.found found').1
  rw [← hkey] at hns
  rw [← hkey'] at hns'
  refine hne ?_
  rw [← hkey, ← hkey']
  change (⟨set.metadata.ns, set.name⟩ : Key) = ⟨set'.metadata.ns, set'.name⟩
  rw [show set.metadata.ns = none from hns, show set'.metadata.ns = none from hns', heq]

/-- **A set reconciled after another one.** It tells the same members to have
joined as if it were reconciled first, and of those who left the ones that
the other set's name is not the label of. -/
theorem reconcile_after {key other : Key} {set set' : Resource}
    {result result' : Except StoreError SyncOutcome}
    (hs : h.store.Sound) (hf : h.store.Faultless) (hscoped : h.store.ClusterScoped .member)
    (hc : h.cache.Sound) (hns : key.ns = none) (hns' : other.ns = none)
    (found : h.store.object? .set key = some set) (live : set.isDeleting = false)
    (found' : h.store.object? .set other = some set') (live' : set'.isDeleting = false)
    (hne : key ≠ other)
    (first : Runs (ClusterSet.reconcile prune policy deadline other) h calls₁ (.result result') h₁)
    (second : Runs (ClusterSet.reconcile prune policy deadline key) h₁ calls₂ (.result result) h₂) :
    let alone := (h.cache.rebuild set.name (h.store.selected set) prune).1
    let churn : Churn :=
      ⟨alone.joined, alone.left.filter fun member => h.store.labelOf member ≠ some set'.name⟩
    Reports result churn ∧
      h₂.events = h₁.events ++ ClusterSet.churnEvents set.name churn prune := by
  intro alone churn
  obtain ⟨-, hcache, -, hrefreshes⟩ := reconcile_live hs hf hns' found' live' first
  have hfound : h₁.store.object? .set key = some set := by
    rw [hrefreshes.others fun heq => hne (congrArg Prod.snd heq).symm, found]
  have hselected : h₁.store.selected set = h.store.selected set := by
    rw [MemoryStore.selected, MemoryStore.selected, hrefreshes.members]
  obtain ⟨hreports, -, hevents, -⟩ :=
    reconcile_live hrefreshes.sound hrefreshes.faultless hns hfound live second
  have hname : set.name ≠ set'.name := name_ne_of_key_ne hs hns hns' found found' hne
  -- a member has one label, so only one of the two sets selects it
  have hapart : ∀ member ∈ h.store.selected set, member ∉ h.store.selected set' := by
    intro member hmem hmem'
    rw [mem_selected_iff hs hscoped] at hmem hmem'
    exact hname (Option.some.inj (hmem.symm.trans hmem'))
  obtain ⟨hjoined, hleft⟩ :
      ((h.cache.rebuild set'.name (h.store.selected set') prune).2.rebuild set.name
          (h.store.selected set) prune).1.joined = alone.joined ∧ _ =
        alone.left.filter fun member => !(h.store.selected set').contains member :=
    hc.churn_after_rebuild hname hapart
  have hchurn : (h₁.cache.rebuild set.name (h₁.store.selected set) prune).1 = churn := by
    have hfilter : (fun member => !(h.store.selected set').contains member) =
        fun member => decide (h.store.labelOf member ≠ some set'.name) := by
      funext member
      rw [Bool.eq_iff_iff, Bool.not_eq_true', ← Bool.not_eq_true, List.contains_iff_mem,
        mem_selected_iff hs hscoped, decide_eq_true_iff]
    rw [hcache, hselected]
    rw [hfilter] at hleft
    exact congr (congrArg Churn.mk hjoined) hleft
  rw [hchurn] at hreports hevents
  exact ⟨hreports, hevents⟩

/-- **Churn in either order.** Of two live sets the members that join are
told alike, whichever is reconciled first. The members that left are told
in full by the set that is reconciled first; the other one tells only those
whose label does not name the first, which has pointed the others at itself.
So a member that moved from one set to the other is told to have joined in
either order, and to have left only if the set it left comes first. -/
theorem churn_in_either_order {keyA keyB : Key} {setA setB : Resource}
    {hA hAB hB hBA : Hub MemoryStore} {callsA callsAB callsB callsBA : List Call}
    {toldA toldAB toldB toldBA : Except StoreError SyncOutcome}
    (sound : h.store.Sound) (faultless : h.store.Faultless)
    (clustered : h.store.ClusterScoped .member) (cached : h.cache.Sound)
    (clusterA : keyA.ns = none) (clusterB : keyB.ns = none) (distinct : keyA ≠ keyB)
    (foundA : h.store.object? .set keyA = some setA) (liveA : setA.isDeleting = false)
    (foundB : h.store.object? .set keyB = some setB) (liveB : setB.isDeleting = false)
    (runA : Runs (ClusterSet.reconcile prune policy deadline keyA) h callsA (.result toldA) hA)
    (runAB : Runs (ClusterSet.reconcile prune policy deadline keyB) hA callsAB (.result toldAB) hAB)
    (runB : Runs (ClusterSet.reconcile prune policy deadline keyB) h callsB (.result toldB) hB)
    (runBA : Runs (ClusterSet.reconcile prune policy deadline keyA) hB callsBA (.result toldBA) hBA) :
    ∃ joinedA leftA joinedB leftB,
      let churnA : Churn := ⟨joinedA, leftA⟩
      let churnB : Churn := ⟨joinedB, leftB⟩
      let laterA : Churn := ⟨joinedA, leftA.filter fun m => h.store.labelOf m ≠ some setB.name⟩
      let laterB : Churn := ⟨joinedB, leftB.filter fun m => h.store.labelOf m ≠ some setA.name⟩
      Reports toldA churnA ∧ Reports toldAB laterB ∧ Reports toldB churnB ∧ Reports toldBA laterA ∧
        hAB.events = h.events ++ ClusterSet.churnEvents setA.name churnA prune ++
          ClusterSet.churnEvents setB.name laterB prune ∧
        hBA.events = h.events ++ ClusterSet.churnEvents setB.name churnB prune ++
          ClusterSet.churnEvents setA.name laterA prune ∧
        ∀ m, h.cache.get? m = some setA.name → h.store.labelOf m = some setB.name →
          m ∈ leftA ∧ m ∈ joinedB := by
  -- each set once as the first of the two, and once after the other
  obtain ⟨hreportsA, -, heventsA, -⟩ := reconcile_live sound faultless clusterA foundA liveA runA
  obtain ⟨hreportsB, -, heventsB, -⟩ := reconcile_live sound faultless clusterB foundB liveB runB
  obtain ⟨hreportsAB, heventsAB⟩ := reconcile_after sound faultless clustered cached clusterB clusterA
    foundB liveB foundA liveA distinct.symm runA runAB
  obtain ⟨hreportsBA, heventsBA⟩ := reconcile_after sound faultless clustered cached clusterA clusterB
    foundA liveA foundB liveB distinct runB runBA
  rw [heventsA] at heventsAB
  rw [heventsB] at heventsBA
  refine ⟨_, _, _, _, hreportsA, hreportsAB, hreportsB, hreportsBA, heventsAB, heventsBA, ?_⟩
  -- a member that moved: it is under `A` still, and only `B` selects it
  intro m hcached hlabel
  have hname : setA.name ≠ setB.name :=
    name_ne_of_key_ne sound clusterA clusterB foundA foundB distinct
  constructor
  · change m ∈ (h.cache.rebuild setA.name (h.store.selected setA) prune).1.left
    rw [cached.mem_left, mem_selected_iff sound clustered, hlabel]
    exact ⟨hcached, fun heq => hname (Option.some.inj heq).symm⟩
  · refine Membership.mem_joined ((mem_selected_iff sound clustered).mpr hlabel) fun heq => hname ?_
    exact Option.some.inj (hcached.symm.trans heq)

namespace Hub.moved

/-- A reconciliation with pruning. -/
def sync (set : String) : Program (Except StoreError SyncOutcome) :=
  ClusterSet.reconcile true .standard none (.cluster set)

/-- The two sets, reconciled in both orders. -/
theorem runs : ∃ (hA hAB hB hBA : Hub MemoryStore) (callsA callsAB callsB callsBA : List Call),
    Runs (sync "a") moved callsA (.result (.ok (.reconciled 0 ⟨[], ["m"]⟩ true))) hA ∧
      Runs (sync "b") hA callsAB (.result (.ok (.reconciled 1 ⟨["m"], []⟩ true))) hAB ∧
      hAB.events = [ClusterSet.leftEvent "a" ["m"], ClusterSet.joinedEvent "b" ["m"]] ∧
      Runs (sync "b") moved callsB (.result (.ok (.reconciled 1 ⟨["m"], []⟩ true))) hB ∧
      Runs (sync "a") hB callsBA (.result (.ok (.reconciled 0 ⟨[], []⟩ true))) hBA ∧
      hBA.events = [ClusterSet.joinedEvent "b" ["m"]] := by
  let hA := (Hub.runAlone (sync "a") moved).2
  let hB := (Hub.runAlone (sync "b") moved).2
  obtain ⟨callsA, runA⟩ := Runs.of_result (p := sync "a") (h := moved)
    (a := .ok (.reconciled 0 ⟨[], ["m"]⟩ true)) (by decide +kernel)
  obtain ⟨callsAB, runAB⟩ := Runs.of_result (p := sync "b") (h := hA)
    (a := .ok (.reconciled 1 ⟨["m"], []⟩ true)) (by decide +kernel)
  obtain ⟨callsB, runB⟩ := Runs.of_result (p := sync "b") (h := moved)
    (a := .ok (.reconciled 1 ⟨["m"], []⟩ true)) (by decide +kernel)
  obtain ⟨callsBA, runBA⟩ := Runs.of_result (p := sync "a") (h := hB)
    (a := .ok (.reconciled 0 ⟨[], []⟩ true)) (by decide +kernel)
  exact ⟨_, _, _, _, callsA, callsAB, callsB, callsBA, runA, runAB, by decide +kernel, runB, runBA,
    by decide +kernel⟩

/-- Both sets are there and live. -/
theorem found {name : String} (h : name = "a" ∨ name = "b") :
    ∃ set, moved.store.object? .set (.cluster name) = some set ∧ set.isDeleting = false ∧
      set.name = name := by
  obtain rfl | rfl := h
  · exact ⟨_, rfl, by decide +kernel, by decide +kernel⟩
  · exact ⟨_, rfl, by decide +kernel, by decide +kernel⟩

end Hub.moved

/-- The member that moved is told to have left `a` when `a` is reconciled
first, and to have joined `b` in either order. -/
theorem churn_in_either_order_moved : ∃ hA hB hBA callsA callsB callsBA toldA toldB toldBA,
    Runs (Hub.moved.sync "a") .moved callsA (.result toldA) hA ∧
      Runs (Hub.moved.sync "b") .moved callsB (.result toldB) hB ∧
      Runs (Hub.moved.sync "a") hB callsBA (.result toldBA) hBA ∧
      ∃ joinedA leftA joinedB leftB, Reports toldA ⟨joinedA, leftA⟩ ∧ Reports toldB ⟨joinedB, leftB⟩ ∧
        Reports toldBA ⟨joinedA, leftA.filter fun m => Hub.moved.store.labelOf m ≠ some "b"⟩ ∧
        "m" ∈ leftA ∧ "m" ∈ joinedB := by
  obtain ⟨_, _, _, _, _, _, _, _, runA, runAB, -, runB, runBA, -⟩ := Hub.moved.runs
  obtain ⟨setA, foundA, liveA, hnameA⟩ := Hub.moved.found (.inl rfl)
  obtain ⟨setB, foundB, liveB, hnameB⟩ := Hub.moved.found (.inr rfl)
  obtain ⟨joinedA, leftA, joinedB, leftB, hA, -, hB, hBA, -, -, hmoved⟩ :=
    churn_in_either_order Hub.moved.sound Hub.moved.faultless Hub.moved.clusterScoped
      Hub.moved.cached rfl rfl (by decide) foundA liveA foundB liveB runA runAB runB runBA
  have hcached : Hub.moved.cache.get? "m" = some setA.name := by
    rw [hnameA]
    decide +kernel
  have hlabel : Hub.moved.store.labelOf "m" = some setB.name := by
    rw [hnameB]
    decide +kernel
  rw [hnameB] at hBA
  exact ⟨_, _, _, _, _, _, _, _, _, runA, runB, runBA, joinedA, leftA, joinedB, leftB, hA, hB, hBA,
    hmoved "m" hcached hlabel⟩

/-- **A departure goes untold** where the set that the member moved to is
reconciled first: the lists of those who left, and the events, depend on the
order. -/
theorem departure_goes_untold : ∃ (h hA hAB hB hBA : Hub MemoryStore)
    (callsA callsAB callsB callsBA : List Call),
    h.store.Sound ∧ h.store.Faultless ∧ h.store.ClusterScoped .member ∧ h.cache.Sound ∧
      h.store.LiveAt (.cluster "a") ∧ h.store.LiveAt (.cluster "b") ∧
      h.cache.get? "m" = some "a" ∧ h.store.labelOf "m" = some "b" ∧
      Runs (Hub.moved.sync "a") h callsA (.result (.ok (.reconciled 0 ⟨[], ["m"]⟩ true))) hA ∧
      Runs (Hub.moved.sync "b") hA callsAB (.result (.ok (.reconciled 1 ⟨["m"], []⟩ true))) hAB ∧
      hAB.events = [ClusterSet.leftEvent "a" ["m"], ClusterSet.joinedEvent "b" ["m"]] ∧
      Runs (Hub.moved.sync "b") h callsB (.result (.ok (.reconciled 1 ⟨["m"], []⟩ true))) hB ∧
      Runs (Hub.moved.sync "a") hB callsBA (.result (.ok (.reconciled 0 ⟨[], []⟩ true))) hBA ∧
      hBA.events = [ClusterSet.joinedEvent "b" ["m"]] := by
  obtain ⟨setA, foundA, liveA, -⟩ := Hub.moved.found (.inl rfl)
  obtain ⟨setB, foundB, liveB, -⟩ := Hub.moved.found (.inr rfl)
  obtain ⟨hA, hAB, hB, hBA, callsA, callsAB, callsB, callsBA, hruns⟩ := Hub.moved.runs
  exact ⟨.moved, hA, hAB, hB, hBA, callsA, callsAB, callsB, callsBA, Hub.moved.sound,
    Hub.moved.faultless, Hub.moved.clusterScoped, Hub.moved.cached, ⟨setA, foundA, liveA⟩,
    ⟨setB, foundB, liveB⟩, by decide +kernel, by decide +kernel, hruns⟩

end Order

end ClusterFleet
