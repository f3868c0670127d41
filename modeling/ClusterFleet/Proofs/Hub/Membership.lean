import ClusterFleet.Hub.Membership
import Mathlib.Logic.Basic

/-!
# Hub — the membership cache after a rebuild

The cache as a function of the member (`get?`). Its entries stay in
ascending order of the members (`Sorted`), so each member stands once and
what is cached under a set is what `get?` says. **A rebuild**
(`get?_rebuild`) points the selected members at the set, and drops the
others that were under it only when pruning.
-/

namespace ClusterFleet

namespace Fields

variable {α : Type} {name other : String} {v : α} {fields : List (String × α)}

theorem get?_erase_self (name : String) (fields : List (String × α)) :
    get? name (erase name fields) = none := by
  induction fields with
  | nil => rfl
  | cons p rest ih =>
    by_cases hp : p.1 = name
    · rw [erase, List.filter_cons, if_neg (by rw [decide_eq_true_eq]; exact not_not_intro hp)]
      exact ih
    · rw [erase, List.filter_cons, if_pos (decide_eq_true hp)]
      obtain ⟨k, w⟩ := p
      rw [get?, if_neg hp]
      exact ih

theorem get?_erase_of_ne (h : other ≠ name) (fields : List (String × α)) :
    get? other (erase name fields) = get? other fields := by
  induction fields with
  | nil => rfl
  | cons p rest ih =>
    obtain ⟨k, w⟩ := p
    by_cases hp : k = name
    · rw [erase, List.filter_cons, if_neg (by rw [decide_eq_true_eq]; exact not_not_intro hp),
        get?, if_neg (fun hk => h (hk.symm.trans hp))]
      exact ih
    · rw [erase, List.filter_cons, if_pos (decide_eq_true hp), get?, get?]
      split
      · rfl
      · exact ih

/-- Fields in ascending order of their names. -/
def Sorted (fields : List (String × α)) : Prop := fields.Pairwise fun p q => p.1 < q.1

theorem mem_insert {p : String × α} (h : p ∈ insert name v fields) :
    p = (name, v) ∨ p ∈ fields := by
  induction fields with
  | nil => exact .inl (List.mem_singleton.mp h)
  | cons q rest ih =>
    obtain ⟨k, w⟩ := q
    rw [insert] at h
    split at h
    · rcases List.mem_cons.mp h with rfl | h
      · exact .inl rfl
      · exact .inr (List.mem_cons_of_mem _ h)
    · split at h
      · rcases List.mem_cons.mp h with rfl | h
        · exact .inl rfl
        · exact .inr h
      · rcases List.mem_cons.mp h with rfl | h
        · exact .inr List.mem_cons_self
        · exact (ih h).imp_right (List.mem_cons_of_mem _)

theorem Sorted.insert (h : Sorted fields) : Sorted (insert name v fields) := by
  induction fields with
  | nil => exact List.pairwise_singleton _ _
  | cons q rest ih =>
    obtain ⟨k, w⟩ := q
    obtain ⟨hk, hrest⟩ := List.pairwise_cons.mp h
    rw [Fields.insert]
    split
    · rename_i hname
      exact List.pairwise_cons.mpr ⟨fun p hp => hname ▸ hk p hp, hrest⟩
    · rename_i hname
      split
      · rename_i hlt
        refine List.pairwise_cons.mpr ⟨fun p hp => ?_, h⟩
        rcases List.mem_cons.mp hp with rfl | hp
        · exact hlt
        · exact String.lt_trans hlt (hk p hp)
      · rename_i hlt
        refine List.pairwise_cons.mpr ⟨fun p hp => ?_, ih hrest⟩
        rcases mem_insert hp with rfl | hp
        · -- neither equal nor before, so after
          exact Decidable.byContradiction fun hnot => hname (String.le_antisymm hnot hlt)
        · exact hk p hp

theorem Sorted.erase (h : Sorted fields) (name : String) : Sorted (erase name fields) :=
  h.sublist List.filter_sublist

theorem mem_of_get? (h : get? name fields = some v) : (name, v) ∈ fields := by
  induction fields with
  | nil => cases h
  | cons q rest ih =>
    obtain ⟨k, w⟩ := q
    rw [get?] at h
    split at h
    · rename_i hk
      cases h
      rw [hk]
      exact List.mem_cons_self
    · exact List.mem_cons_of_mem _ (ih h)

/-- In sorted fields each name stands once. -/
theorem Sorted.get?_of_mem (h : Sorted fields) (hmem : (name, v) ∈ fields) :
    get? name fields = some v := by
  induction fields with
  | nil => cases hmem
  | cons q rest ih =>
    obtain ⟨k, w⟩ := q
    obtain ⟨hk, hrest⟩ := List.pairwise_cons.mp h
    rw [get?]
    rcases List.mem_cons.mp hmem with heq | hmem
    · cases heq
      exact if_pos rfl
    · rw [if_neg, ih hrest hmem]
      intro hname
      exact String.lt_irrefl name (hname ▸ hk _ hmem)

end Fields

namespace Membership

variable {c : Membership} {set member : String} {selected : List String} {prune : Bool}

/-- **A sound cache** has its entries in ascending order of the members. -/
def Sound (c : Membership) : Prop := Fields.Sorted c.entries

theorem sound_empty : Sound empty := List.Pairwise.nil

theorem Sound.forget (h : c.Sound) (member : String) : (c.forget member).Sound :=
  Fields.Sorted.erase h member

theorem get?_forget (c : Membership) (member other : String) :
    (c.forget member).get? other = if other = member then none else c.get? other := by
  split
  · rename_i heq
    rw [heq]
    exact Fields.get?_erase_self _ _
  · rename_i hne
    exact Fields.get?_erase_of_ne hne _

theorem get?_insert (c : Membership) (member other set : String) :
    (c.insert member set).get? other = if other = member then some set else c.get? other := by
  split
  · rename_i heq
    rw [heq]
    exact Fields.get?_insert_self _ _ _
  · rename_i hne
    exact Fields.get?_insert_of_ne hne _ _

/-- The members under a set are those that the cache says are in it. -/
theorem Sound.mem_membersOf (h : c.Sound) :
    member ∈ c.membersOf set ↔ c.get? member = some set := by
  constructor
  · intro hmem
    obtain ⟨p, hp, rfl⟩ := List.mem_map.mp hmem
    obtain ⟨hp, hset⟩ := List.mem_filter.mp hp
    exact Fields.Sorted.get?_of_mem h (of_decide_eq_true hset ▸ hp)
  · intro hget
    exact List.mem_map.mpr ⟨(member, set), List.mem_filter.mpr
      ⟨Fields.mem_of_get? hget, decide_eq_true rfl⟩, rfl⟩

theorem Sound.join (h : c.Sound) : (join set selected c).2.Sound := by
  induction selected generalizing c with
  | nil => exact h
  | cons m rest ih => exact ih (Fields.Sorted.insert h)

/-- Joining points the selected members at the set and nobody else. -/
theorem get?_join (set : String) (selected : List String) (c : Membership) (member : String) :
    (join set selected c).2.get? member =
      if member ∈ selected then some set else c.get? member := by
  induction selected generalizing c with
  | nil => rfl
  | cons m rest ih =>
    change (Membership.join set rest (c.insert m set)).2.get? member = _
    rw [ih, get?_insert, ← ite_or]
    simp only [List.mem_cons, or_comm]

theorem get?_forgetAll (gone : List String) (c : Membership) (member : String) :
    (gone.foldl (fun c m => c.forget m) c).get? member =
      if member ∈ gone then none else c.get? member := by
  induction gone generalizing c with
  | nil => rfl
  | cons m rest ih =>
    rw [List.foldl_cons, ih, get?_forget, ← ite_or]
    simp only [List.mem_cons, or_comm]

theorem Sound.forgetAll (h : c.Sound) (gone : List String) :
    (gone.foldl (fun c m => c.forget m) c).Sound := by
  induction gone generalizing c with
  | nil => exact h
  | cons m rest ih => exact ih (h.forget m)

theorem Sound.rebuild (h : c.Sound) : (c.rebuild set selected prune).2.Sound := by
  have hjoin : (Membership.join set selected c).2.Sound := h.join
  rw [Membership.rebuild]
  cases prune with
  | false => exact hjoin
  | true => exact hjoin.forgetAll _

/-- **A rebuild** points the selected members at the set. A member that was
under the set and is not selected is dropped when pruning, and everybody
else stays where they were. -/
theorem Sound.get?_rebuild (h : c.Sound) (member : String) :
    (c.rebuild set selected prune).2.get? member =
      if member ∈ selected then some set
      else if prune = true ∧ c.get? member = some set then none
      else c.get? member := by
  have hjoin : (Membership.join set selected c).2.Sound := h.join
  have hget := get?_join set selected c member
  cases prune with
  | false =>
    rw [if_neg fun hprune : false = true ∧ c.get? member = some set => Bool.false_ne_true hprune.1]
    exact hget
  | true =>
    -- pruning forgets those who are under the set once the selected have joined
    change (List.foldl _ (Membership.join set selected c).2 _).get? member = _
    rw [get?_forgetAll]
    by_cases hsel : member ∈ selected
    · rw [if_pos hsel] at hget ⊢
      rw [if_neg, hget]
      intro hleft
      have hnot := (List.mem_filter.mp hleft).2
      rw [List.contains_iff_mem.mpr hsel] at hnot
      cases hnot
    · rw [if_neg hsel] at hget ⊢
      have hnot : (!selected.contains member) = true := by
        rw [Bool.not_eq_true', ← Bool.not_eq_true, List.contains_iff_mem]
        exact hsel
      by_cases hset : c.get? member = some set
      · rw [if_pos (And.intro rfl hset), if_pos]
        exact List.mem_filter.mpr ⟨hjoin.mem_membersOf.mpr (hget.trans hset), hnot⟩
      · rw [if_neg fun hprune : true = true ∧ c.get? member = some set => hset hprune.2, if_neg, hget]
        intro hleft
        exact hset (hget.symm.trans (hjoin.mem_membersOf.mp (List.mem_filter.mp hleft).1))

end Membership

end ClusterFleet
