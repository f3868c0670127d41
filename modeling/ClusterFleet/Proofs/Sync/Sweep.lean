import ClusterFleet.Proofs.Hub.Churn
import ClusterFleet.Proofs.Sync.Changes
import ClusterFleet.Proofs.Sync.Quiet

/-!
# Sync — sweeps over several sets

What is left after some sets were reconciled where nothing fails (`Swept`):
each live set of them was brought up to date, the cache follows them, and
everything else is as it was. One reconciliation sweeps its own key, and
sweeps put together are a sweep (`Swept.trans`): no reconciliation disturbs
what an earlier one established. So a sweep is decided, but for versions and
times, by which keys it went over (`Swept.unique`).
-/

namespace ClusterFleet

namespace MemoryStore

variable {s s' : MemoryStore} {key : Key} {kind : Kind} {set r : Resource} {name : String}

/-- The objects of a kind live in no namespace. -/
def ClusterScoped (kind : Kind) (s : MemoryStore) : Prop :=
  ∀ r ∈ s.objects kind, r.metadata.ns = none

theorem ClusterScoped.key_eq (h : s.ClusterScoped kind) (hr : r ∈ s.objects kind) :
    r.key = .cluster r.name := by
  change (⟨r.metadata.ns, r.metadata.name⟩ : Key) = ⟨none, r.metadata.name⟩
  rw [h r hr]

/-- The set that the label of a member names, by the member's name. -/
def labelOf (s : MemoryStore) (member : String) : Option String :=
  (s.object? .member (.cluster member)).bind Resource.clusterSet?

/-- A set selects the members whose label is its name. -/
theorem mem_selected_iff (hs : s.Sound) (hscoped : s.ClusterScoped .member) :
    name ∈ s.selected set ↔ s.labelOf name = some set.name := by
  rw [mem_selected, labelOf, Option.bind_eq_some_iff]
  constructor
  · rintro ⟨member, hmember, rfl⟩
    obtain ⟨hstored, hlabel⟩ := (mem_labelled hs).mp hmember
    have hkey := hscoped.key_eq (hs.mem_objects.mpr hstored)
    exact ⟨member, hkey ▸ hstored, hlabel⟩
  · rintro ⟨member, hstored, hlabel⟩
    have hkey : member.key = .cluster name := (hs.found hstored).1
    exact ⟨member, (mem_labelled hs).mpr ⟨hkey ▸ hstored, hlabel⟩, congrArg Key.name hkey⟩

/-- A set stands under the key and is not marked for deletion. -/
def LiveAt (s : MemoryStore) (key : Key) : Prop :=
  ∃ set, s.object? .set key = some set ∧ set.isDeleting = false

/-- The name is that of a live set under one of the keys. -/
def LiveAmong (s : MemoryStore) (keys : List Key) (name : String) : Prop :=
  ∃ key ∈ keys, ∃ set, s.object? .set key = some set ∧ set.isDeleting = false ∧ set.name = name

theorem liveAmong_append (s : MemoryStore) (keys keys' : List Key) (name : String) :
    s.LiveAmong (keys ++ keys') name ↔ s.LiveAmong keys name ∨ s.LiveAmong keys' name := by
  constructor
  · rintro ⟨key, hkey, hset⟩
    exact (List.mem_append.mp hkey).imp (fun h => ⟨key, h, hset⟩) fun h => ⟨key, h, hset⟩
  · rintro (⟨key, hkey, hset⟩ | ⟨key, hkey, hset⟩)
    · exact ⟨key, List.mem_append_left _ hkey, hset⟩
    · exact ⟨key, List.mem_append_right _ hkey, hset⟩

end MemoryStore

open MemoryStore

/-- **A sweep** over the sets of some keys: what it has done to store and
cache. -/
structure Swept (prune : Bool) (keys : List Key) (before after : MemoryStore)
    (cache cache' : Membership) : Prop where
  sound : after.Sound
  faultless : after.Faultless
  members : after.objects .member = before.objects .member
  /-- Each live set was brought up to date. -/
  live : ∀ {key set}, key ∈ keys → before.object? .set key = some set → set.isDeleting = false →
    ∃ set', after.object? .set key = some set' ∧
      Refreshed (before.labelled set.name).length set set'
  /-- Everything else is as it was. -/
  others : ∀ {kind key}, ¬(kind = .set ∧ key ∈ keys ∧ before.LiveAt key) →
    after.object? kind key = before.object? kind key
  cached : cache'.Sound
  follows : Membership.Follows prune before.labelOf (before.LiveAmong keys) cache cache'
  /-- Nothing is written where every status is right. -/
  quiet : (∀ key ∈ keys, ∀ set, before.object? .set key = some set → set.isDeleting = false →
    Tells (before.labelled set.name).length set) → Inspected before after

namespace Swept

variable {prune : Bool} {keys keys' : List Key} {s s' s'' : MemoryStore}
variable {c c' c'' : Membership} {key : Key}

theorem labelled (h : Swept prune keys s s' c c') (name : String) : s'.labelled name = s.labelled name := by
  rw [MemoryStore.labelled, MemoryStore.labelled, h.members]

theorem labelOf (h : Swept prune keys s s' c c') : s'.labelOf = s.labelOf := by
  funext member
  have hmember : s'.object? .member (.cluster member) = s.object? .member (.cluster member) :=
    h.others fun hset => nomatch hset.1
  rw [MemoryStore.labelOf, MemoryStore.labelOf, hmember]

theorem clusterScoped (h : Swept prune keys s s' c c') (hscoped : s.ClusterScoped .member) :
    s'.ClusterScoped .member := by
  intro r hr
  rw [h.members] at hr
  exact hscoped r hr

/-- A set that is found after a sweep was there before: live or marked as it
was, and of the same name. -/
theorem found_before (h : Swept prune keys s s' c c') {set' : Resource}
    (hfound : s'.object? .set key = some set') :
    ∃ set, s.object? .set key = some set ∧ set.isDeleting = set'.isDeleting ∧
      set.name = set'.name := by
  by_cases hlive : key ∈ keys ∧ s.LiveAt key
  · obtain ⟨hkey, set, hset, hlive⟩ := hlive
    obtain ⟨set'', hset'', hrefreshed⟩ := h.live hkey hset hlive
    obtain rfl := Option.some.inj (hfound.symm.trans hset'')
    exact ⟨set, hset, hrefreshed.isDeleting.symm, hrefreshed.name.symm⟩
  · have hsame : s'.object? .set key = s.object? .set key := h.others fun hall => hlive hall.2
    exact ⟨set', hsame.symm.trans hfound, rfl, rfl⟩

/-- What was there before is found after, live or marked as it was. -/
theorem found_after (h : Swept prune keys s s' c c') {set : Resource}
    (hfound : s.object? .set key = some set) :
    ∃ set', s'.object? .set key = some set' ∧ set'.isDeleting = set.isDeleting ∧
      set'.name = set.name := by
  by_cases hlive : key ∈ keys ∧ s.LiveAt key
  · obtain ⟨hkey, set₀, hset, hlive⟩ := hlive
    obtain rfl := Option.some.inj (hfound.symm.trans hset)
    obtain ⟨set', hset', hrefreshed⟩ := h.live hkey hfound hlive
    exact ⟨set', hset', hrefreshed.isDeleting, hrefreshed.name⟩
  · have hsame : s'.object? .set key = s.object? .set key := h.others fun hall => hlive hall.2
    exact ⟨set, hsame.trans hfound, rfl, rfl⟩

theorem liveAt_iff (h : Swept prune keys s s' c c') (key : Key) : s'.LiveAt key ↔ s.LiveAt key := by
  constructor
  · rintro ⟨set', hset', hlive⟩
    obtain ⟨set, hset, hsame, -⟩ := h.found_before hset'
    exact ⟨set, hset, hsame.trans hlive⟩
  · rintro ⟨set, hset, hlive⟩
    obtain ⟨set', hset', hsame, -⟩ := h.found_after hset
    exact ⟨set', hset', hsame.trans hlive⟩

theorem liveAmong_iff (h : Swept prune keys s s' c c') (keys' : List Key) (name : String) :
    s'.LiveAmong keys' name ↔ s.LiveAmong keys' name := by
  constructor
  · rintro ⟨key, hkey, set', hset', hlive, rfl⟩
    obtain ⟨set, hset, hsame, hname⟩ := h.found_before hset'
    exact ⟨key, hkey, set, hset, hsame.trans hlive, hname⟩
  · rintro ⟨key, hkey, set, hset, hlive, rfl⟩
    obtain ⟨set', hset', hsame, hname⟩ := h.found_after hset
    exact ⟨key, hkey, set', hset', hsame.trans hlive, hname⟩

/-! ## Sweeps put together -/

/-- Reads are a sweep over no keys. -/
theorem of_inspected (hs : s.Sound) (hf : s.Faultless) (hc : c.Sound) (same : Inspected s s') :
    Swept prune [] s s' c c := by
  have hsame := same.consulted
  refine ⟨hsame.sound hs, hsame.faultless hf, hsame.objects .member, fun hkey => (nomatch hkey),
    fun _ => hsame.object? _ _, hc, ?_, fun _ => same⟩
  refine (Membership.Follows.refl prune s.labelOf c).congr fun name => iff_of_false id ?_
  rintro ⟨key, hkey, -⟩
  cases hkey

/-- **A sweep after a sweep** is a sweep over the keys of both. -/
theorem trans (h : Swept prune keys s s' c c') (h' : Swept prune keys' s' s'' c' c'') :
    Swept prune (keys ++ keys') s s'' c c'' := by
  refine ⟨h'.sound, h'.faultless, h'.members.trans h.members, ?_, ?_, h'.cached, ?_, ?_⟩
  · intro key set hkey hset hlive
    by_cases hfirst : key ∈ keys
    · obtain ⟨set', hset', hrefreshed⟩ := h.live hfirst hset hlive
      -- the second sweep may go over the set again: then its condition is put in place twice
      by_cases hlater : key ∈ keys'
      · have hlive' : set'.isDeleting = false := hrefreshed.isDeleting.trans hlive
        obtain ⟨set'', hset'', hrefreshed'⟩ := h'.live hlater hset' hlive'
        rw [h.labelled, hrefreshed.name] at hrefreshed'
        exact ⟨set'', hset'', hrefreshed.trans hrefreshed'⟩
      · have hsame : s''.object? .set key = s'.object? .set key :=
          h'.others fun hall => hlater hall.2.1
        exact ⟨set', hsame.trans hset', hrefreshed⟩
    · have hlater : key ∈ keys' := (List.mem_append.mp hkey).resolve_left hfirst
      have hsame : s'.object? .set key = s.object? .set key := h.others fun hall => hfirst hall.2.1
      obtain ⟨set'', hset'', hrefreshed⟩ := h'.live hlater (hsame.trans hset) hlive
      rw [h.labelled] at hrefreshed
      exact ⟨set'', hset'', hrefreshed⟩
  · intro kind key hnot
    rw [h'.others, h.others]
    · exact fun hall => hnot ⟨hall.1, List.mem_append_left _ hall.2.1, hall.2.2⟩
    · intro hall
      exact hnot ⟨hall.1, List.mem_append_right _ hall.2.1, (h.liveAt_iff key).mp hall.2.2⟩
  · have hthen := h'.follows
    rw [h.labelOf] at hthen
    refine (h.follows.trans (hthen.congr (h.liveAmong_iff keys'))).congr fun name => ?_
    exact (s.liveAmong_append keys keys' name).symm
  · intro hright
    have hfirst : Inspected s s' := h.quiet fun key hkey => hright key (List.mem_append_left _ hkey)
    -- the first wrote nothing, so the second finds every status as it was
    refine hfirst.trans (h'.quiet fun key hkey set hset hlive => ?_)
    rw [hfirst.consulted.object?] at hset
    rw [h.labelled]
    exact hright key (List.mem_append_right _ hkey) set hset hlive

/-- A sweep goes over keys in no order. -/
theorem congr (h : Swept prune keys s s' c c') (hsame : ∀ key, key ∈ keys ↔ key ∈ keys') :
    Swept prune keys' s s' c c' := by
  have hamong (name : String) : s.LiveAmong keys name ↔ s.LiveAmong keys' name := by
    unfold LiveAmong
    simp only [hsame]
  refine ⟨h.sound, h.faultless, h.members, fun hkey => h.live ((hsame _).mpr hkey), fun hnot => ?_,
    h.cached, h.follows.congr hamong, fun hright => h.quiet fun key hkey => hright key ((hsame key).mp hkey)⟩
  exact h.others fun hall => hnot ⟨hall.1, (hsame _).mp hall.2.1, hall.2.2⟩

/-- **A sweep is decided by its keys**, but for versions and times. -/
theorem unique (h : Swept prune keys s s' c c') (h' : Swept prune keys s s'' c c'') :
    c' = c'' ∧ ∀ kind key, (s'.object? kind key).map Resource.timeless =
      (s''.object? kind key).map Resource.timeless := by
  refine ⟨h.follows.unique h'.follows h.cached h'.cached, fun kind key => ?_⟩
  by_cases hlive : kind = .set ∧ key ∈ keys ∧ s.LiveAt key
  · obtain ⟨rfl, hkey, set, hset, hlive⟩ := hlive
    obtain ⟨set', hset', hrefreshed⟩ := h.live hkey hset hlive
    obtain ⟨set'', hset'', hrefreshed'⟩ := h'.live hkey hset hlive
    rw [hset', hset'', Option.map_some, Option.map_some, hrefreshed.timeless, hrefreshed'.timeless]
  · rw [h.others hlive, h'.others hlive]

/-! ## One reconciliation -/

/-- Where no live set stands under the key, nothing is done. -/
theorem of_idle (hs : s.Sound) (hf : s.Faultless) (hc : c.Sound) (same : Inspected s s')
    (idle : ∀ set, s.object? .set key = some set → set.isDeleting = true) :
    Swept prune [key] s s' c c := by
  have hsame := same.consulted
  have hnone {key' : Key} (hkey : key' ∈ [key]) {set : Resource}
      (hset : s.object? .set key' = some set) (hlive : set.isDeleting = false) : False := by
    rw [List.mem_singleton.mp hkey] at hset
    rw [idle set hset] at hlive
    cases hlive
  refine ⟨hsame.sound hs, hsame.faultless hf, hsame.objects .member,
    fun hkey hset hlive => (hnone hkey hset hlive).elim, fun _ => hsame.object? _ _, hc, ?_,
    fun _ => same⟩
  refine (Membership.Follows.refl prune s.labelOf c).congr fun name => iff_of_false id ?_
  rintro ⟨key', hkey, set, hset, hlive, -⟩
  exact hnone hkey hset hlive

/-- **A reconciliation sweeps its key.** -/
theorem of_ends {told : List Event} {result : Except StoreError SyncOutcome} (hs : s.Sound)
    (hf : s.Faultless) (hscoped : s.ClusterScoped .member) (hc : c.Sound)
    (ends : QuietEnds prune key s s' c c' told (.result result)) :
    Swept prune [key] s s' c c' := by
  cases ends with
  | missing gone same kept =>
    rw [kept]
    exact of_idle hs hf hc same fun set hset => nomatch gone.symm.trans hset
  | deleting found marked same kept =>
    rw [kept]
    refine of_idle hs hf hc same fun set hset => ?_
    obtain rfl := Option.some.inj (found.symm.trans hset)
    exact marked
  | @reconciled set churn updated found live rebuilt refreshes =>
    -- the one key that is swept is that of the set found
    have hthis {key' : Key} (hkey : key' ∈ [key]) {set' : Resource}
        (hset : s.object? .set key' = some set') : key' = key ∧ set' = set := by
      obtain rfl := List.mem_singleton.mp hkey
      exact ⟨rfl, Option.some.inj (hset.symm.trans found)⟩
    obtain rfl : (c.rebuild set.name (s.selected set) prune).2 = c' := congrArg Prod.snd rebuilt
    refine ⟨refreshes.sound, refreshes.faultless, refreshes.members, ?_, ?_, hc.rebuild, ?_, ?_⟩
    · intro key' set' hkey hset _
      obtain ⟨rfl, rfl⟩ := hthis hkey hset
      exact refreshes.refreshed
    · intro kind key' hnot
      refine refreshes.others fun heq => hnot ?_
      obtain ⟨rfl, rfl⟩ := Prod.mk.inj heq
      exact ⟨rfl, List.mem_singleton_self _, set, found, live⟩
    · refine (hc.follows_rebuild fun name => mem_selected_iff hs hscoped).congr fun name => ?_
      constructor
      · rintro rfl
        exact ⟨key, List.mem_singleton_self _, set, found, live, rfl⟩
      · rintro ⟨key', hkey, set', hset, -, rfl⟩
        rw [(hthis hkey hset).2]
    · intro hright
      exact refreshes.quiet (hright key (List.mem_singleton_self _) set found live)

end Swept

end ClusterFleet
