import ClusterFleet.Proofs.Sync.Turn

/-!
# Sync — changes of members and sets

A change that the authority makes to an object that lives in no namespace,
together with what a watch reports of it (`Reported`), changes one place
of the store. Who belongs to a set is a matter of the stored members
alone: `mem_labelled` says who does, and stores with the same members
agree on it.
-/

namespace ClusterFleet

/-- What is stored in the place of a change. -/
def Change.stored : Change → Option Resource
  | .applied object => some object
  | .deleted _ => none

namespace MemoryStore

variable {s s' : MemoryStore} {kind kind' : Kind} {key key' : Key} {r : Resource}
variable {change : Change} {set : String}

/-! ## Who belongs to a set -/

theorem mem_labelled (hs : s.Sound) :
    r ∈ s.labelled set ↔ s.object? .member r.key = some r ∧ r.clusterSet? = some set := by
  rw [labelled, List.mem_filter, hs.mem_objects, decide_eq_true_iff]

theorem nodup_labelled (hs : s.Sound) (set : String) :
    ((s.labelled set).map Resource.key).Nodup :=
  (hs.nodup_objects .member).sublist (List.filter_sublist.map _)

/-- Stores that agree on who belongs to a set agree on how many do. -/
theorem length_labelled_eq (hs : s.Sound) (hs' : s'.Sound)
    (h : ∀ r, r ∈ s'.labelled set ↔ r ∈ s.labelled set) :
    (s'.labelled set).length = (s.labelled set).length := by
  refine List.Perm.length_eq ((List.perm_ext_iff_of_nodup ?_ ?_).mpr h)
  · exact .of_map _ (nodup_labelled hs' set)
  · exact .of_map _ (nodup_labelled hs set)

/-- Stores with the same members agree on who belongs to a set. -/
theorem mem_labelled_congr (hs : s.Sound) (hs' : s'.Sound)
    (h : ∀ key, s'.object? .member key = s.object? .member key) :
    r ∈ s'.labelled set ↔ r ∈ s.labelled set := by
  rw [mem_labelled hs', mem_labelled hs, h]

/-! ## Stores without namespaces -/

/-- No object of the store lives in a namespace. -/
def Scoped (s : MemoryStore) : Prop :=
  ∀ kind key r, s.object? kind key = some r → key.ns = none

theorem Scoped.key_eq (hscoped : s.Scoped) (hs : s.Sound) (h : s.object? kind key = some r) :
    key = .cluster r.name ∧ r.key = .cluster r.name := by
  have hkey := (hs.found h).1
  have hns := hscoped kind key r h
  subst hkey
  have heq : r.key = .cluster r.name := by
    change (⟨r.metadata.ns, r.metadata.name⟩ : Key) = ⟨none, r.metadata.name⟩
    rw [show r.metadata.ns = none from hns]
  exact ⟨heq, heq⟩

/-- Members of one name are one member. -/
theorem Scoped.member_eq (hscoped : s.Scoped) (hs : s.Sound) {r r' : Resource} {set' : String}
    (h : r ∈ s.labelled set) (h' : r' ∈ s.labelled set') (hname : r.name = r'.name) : r = r' := by
  have hr := ((mem_labelled hs).mp h).1
  have hr' := ((mem_labelled hs).mp h').1
  rw [(hscoped.key_eq hs hr).2, hname] at hr
  rw [(hscoped.key_eq hs hr').2] at hr'
  exact Option.some.inj (hr.symm.trans hr')

/-! ## Changes -/

/-- The authority changes an object that lives in no namespace, and a watch
reports the object as it was written or removed. -/
inductive Reported (kind : Kind) : MemoryStore → Change → MemoryStore → Prop
  | put {r : Resource} {s : MemoryStore} (cluster : r.metadata.ns = none) :
      Reported kind s (.applied (s.put kind r).1) (s.put kind r).2
  | modify {key : Key} {edit : Resource → Resource} {written : Resource} {s : MemoryStore}
      (found : (s.modify kind key edit).1 = .ok written) (cluster : written.metadata.ns = none) :
      Reported kind s (.applied written) (s.modify kind key edit).2
  | remove {key : Key} {r : Resource} {s : MemoryStore} (found : s.object? kind key = some r) :
      Reported kind s (.deleted r) (s.remove kind key).2

/-- An object is changed by putting what becomes of it. -/
theorem Reported.put_or_remove (hs : s.Sound) (h : Reported kind s change s') :
    (∃ r, r.metadata.ns = none ∧ change = .applied (s.put kind r).1 ∧ s' = (s.put kind r).2) ∨
      ∃ r, s.object? kind r.key = some r ∧ change = .deleted r ∧ s' = (s.remove kind r.key).2 := by
  cases h with
  | @put r _ cluster => exact .inl ⟨r, cluster, rfl, rfl⟩
  | @modify key edit written _ found cluster =>
    rw [hs.modify_eq] at found ⊢
    cases hobject : s.object? kind key with
    | none =>
      rw [hobject] at found
      cases found
    | some r =>
      rw [hobject] at found
      obtain rfl := Except.ok.inj found
      exact .inl ⟨edit r, cluster, rfl, rfl⟩
  | @remove key r _ found =>
    obtain rfl := (hs.found found).1
    exact .inr ⟨r, found, rfl, rfl⟩

/-- **What a change has done** to the store. -/
structure Changed (kind : Kind) (change : Change) (s s' : MemoryStore) : Prop where
  sound : s'.Sound
  /-- The object lives in no namespace. -/
  cluster : change.object.key = .cluster change.object.name
  /-- One place has changed. -/
  objects : ∀ kind' key', s'.object? kind' key' =
    if (kind, change.object.key) = (kind', key') then change.stored else s.object? kind' key'
  readFaults : s'.readFaults = s.readFaults
  writeFaults : s'.writeFaults = s.writeFaults

theorem Reported.changed (hs : s.Sound) (hscoped : s.Scoped) (h : Reported kind s change s') :
    Changed kind change s s' := by
  obtain ⟨r, hns, rfl, rfl⟩ | ⟨r, hr, rfl, rfl⟩ := h.put_or_remove hs
  · have hkey := (put_kept kind r s).1
    refine ⟨hs.put kind r, ?_, fun kind' key' => ?_, rfl, rfl⟩
    · change (s.put kind r).1.key = .cluster (s.put kind r).1.key.name
      rw [hkey]
      change (⟨r.metadata.ns, r.metadata.name⟩ : Key) = ⟨none, r.metadata.name⟩
      rw [hns]
    · change _ = if (kind, (s.put kind r).1.key) = (kind', key') then some (s.put kind r).1 else _
      rw [object?_put, hkey]
  · refine ⟨hs.remove kind r.key, (hscoped.key_eq hs hr).2, fun kind' key' => ?_, rfl, rfl⟩
    exact object?_remove kind kind' r.key key' s

theorem Changed.scoped (hscoped : s.Scoped) (h : Changed kind change s s') : s'.Scoped := by
  intro kind' key' r hr
  rw [h.objects] at hr
  split at hr
  · rename_i heq
    rw [← (Prod.mk.inj heq).2, h.cluster]
    rfl
  · exact hscoped kind' key' r hr

/-- An object elsewhere is as it was. -/
theorem Changed.elsewhere (h : Changed kind change s s')
    (hne : (kind, change.object.key) ≠ (kind', key')) :
    s'.object? kind' key' = s.object? kind' key' := by
  rw [h.objects, if_neg hne]

/-- A change of a member touches the set that it names now. Whoever else
belongs to a set did so before. -/
theorem Changed.mem_labelled (hs : s.Sound) (h : Changed .member change s s') :
    r ∈ s'.labelled set ↔
      (change.stored = some r ∧ r.key = change.object.key ∧ r.clusterSet? = some set) ∨
        (r.key ≠ change.object.key ∧ r ∈ s.labelled set) := by
  rw [MemoryStore.mem_labelled h.sound, MemoryStore.mem_labelled hs, h.objects]
  by_cases hkey : r.key = change.object.key
  · rw [if_pos (by rw [hkey])]
    constructor
    · rintro ⟨hstored, hset⟩
      exact .inl ⟨hstored, hkey, hset⟩
    · rintro (⟨hstored, -, hset⟩ | ⟨hne, -⟩)
      · exact ⟨hstored, hset⟩
      · exact absurd hkey hne
  · rw [if_neg fun heq => hkey (Prod.mk.inj heq).2.symm]
    constructor
    · exact fun hold => .inr ⟨hkey, hold⟩
    · rintro (⟨-, heq, -⟩ | ⟨-, hold⟩)
      · exact absurd heq hkey
      · exact hold

end MemoryStore

end ClusterFleet
