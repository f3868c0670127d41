import ClusterFleet.Object.Condition

/-!
# Objects — what setting a condition does to the list

`Shows d` says that a list shows the condition `d`, whatever time it
carries: the first condition of its type has its status, reason and
message. Setting a condition makes the list show it (`shows_set`) and
leaves the conditions of every other type alone (`find?_set_of_ne`), so
what a list shows of another type it goes on showing.
-/

namespace ClusterFleet

namespace Condition

variable {desired existing c : Condition} {cs cs' : List Condition} {type : String}

/-- A list shows a condition: the first of its type says the same. -/
def Shows (desired : Condition) (cs : List Condition) : Prop :=
  ∃ c, find? desired.type cs = some c ∧ c.status = desired.status ∧ c.reason = desired.reason ∧
    c.message = desired.message

instance (desired : Condition) (cs : List Condition) : Decidable (desired.Shows cs) :=
  match h : find? desired.type cs with
  | none => isFalse fun ⟨_, hc, _⟩ => nomatch h.symm.trans hc
  | some c => decidable_of_iff
      (c.status = desired.status ∧ c.reason = desired.reason ∧ c.message = desired.message)
      ⟨fun hsame => ⟨c, h, hsame⟩, fun ⟨_, hc, hsame⟩ => Option.some.inj (h.symm.trans hc) ▸ hsame⟩

theorem find?_cons (type : String) (c : Condition) (cs : List Condition) :
    find? type (c :: cs) = if c.type = type then some c else find? type cs := by
  rw [find?, List.find?_cons]
  by_cases h : c.type = type
  · rw [if_pos h, decide_eq_true h]
  · rw [if_neg h, decide_eq_false h]
    rfl

/-- A merged condition says what was desired; only its time may be
another. -/
theorem merge_kept (h : merge existing desired = some c) :
    ∃ t, c = { desired with since := t } := by
  unfold merge at h
  split at h
  · exact ⟨_, (Option.some.inj h).symm⟩
  · split at h
    · exact ⟨desired.since, (Option.some.inj h).symm⟩
    · obtain ⟨t, -, ht⟩ := Option.map_eq_some_iff.mp h
      exact ⟨t, ht.symm⟩

/-- A merge fails only where the time of the existing condition is the last
of the calendar. -/
theorem merge_eq_none (h : merge existing desired = none) :
    existing.since.addMicrosecond = none := by
  unfold merge at h
  split at h
  · cases h
  · split at h
    · cases h
    · exact Option.map_eq_none_iff.mp h

/-- What setting a condition does at the head of the list. -/
theorem set_cons (desired c : Condition) (cs : List Condition) :
    set desired (c :: cs) =
      if c.type = desired.type then (merge c desired).map (· :: cs)
      else (set desired cs).map (c :: ·) := rfl

/-- **A condition that was set is shown.** -/
theorem shows_set (h : set desired cs = some cs') : Shows desired cs' := by
  induction cs generalizing cs' with
  | nil =>
    cases h
    exact ⟨desired, by rw [find?_cons, if_pos rfl], rfl, rfl, rfl⟩
  | cons c cs ih =>
    rw [set_cons] at h
    split at h
    · obtain ⟨merged, hmerge, rfl⟩ := Option.map_eq_some_iff.mp h
      obtain ⟨t, rfl⟩ := merge_kept hmerge
      exact ⟨{ desired with since := t }, by rw [find?_cons, if_pos rfl], rfl, rfl, rfl⟩
    · rename_i htype
      obtain ⟨later, hlater, rfl⟩ := Option.map_eq_some_iff.mp h
      obtain ⟨shown, hfind, hsame⟩ := ih hlater
      exact ⟨shown, by rw [find?_cons, if_neg htype, hfind], hsame⟩

/-- **Conditions of other types are left alone.** -/
theorem find?_set_of_ne (h : set desired cs = some cs') (hne : type ≠ desired.type) :
    find? type cs' = find? type cs := by
  induction cs generalizing cs' with
  | nil =>
    cases h
    rw [find?_cons, if_neg hne.symm]
  | cons c cs ih =>
    rw [set_cons] at h
    split at h
    · rename_i htype
      obtain ⟨merged, hmerge, rfl⟩ := Option.map_eq_some_iff.mp h
      obtain ⟨t, rfl⟩ := merge_kept hmerge
      rw [find?_cons, find?_cons, if_neg hne.symm, if_neg (htype ▸ hne.symm)]
    · obtain ⟨later, hlater, rfl⟩ := Option.map_eq_some_iff.mp h
      rw [find?_cons, find?_cons, ih hlater]

/-- What is shown goes on being shown when another type is set. -/
theorem Shows.set_of_ne {other : Condition} (h : Shows desired cs)
    (hset : set other cs = some cs') (hne : desired.type ≠ other.type) : Shows desired cs' := by
  obtain ⟨c, hfind, hsame⟩ := h
  exact ⟨c, (find?_set_of_ne hset hne).trans hfind, hsame⟩

/-- Setting a condition fails only where the first of its type has the last
time of the calendar. -/
theorem set_eq_none (h : set desired cs = none) :
    ∃ c, find? desired.type cs = some c ∧ c.since.addMicrosecond = none := by
  induction cs with
  | nil => cases h
  | cons c cs ih =>
    rw [set_cons] at h
    split at h
    · rename_i htype
      exact ⟨c, by rw [find?_cons, if_pos htype], merge_eq_none (Option.map_eq_none_iff.mp h)⟩
    · rename_i htype
      obtain ⟨found, hfind, hlast⟩ := ih (Option.map_eq_none_iff.mp h)
      exact ⟨found, by rw [find?_cons, if_neg htype, hfind], hlast⟩

end Condition

end ClusterFleet
