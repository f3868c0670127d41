import ClusterFleet.Proofs.Object.Conditions
import ClusterFleet.Object.Form

/-!
# Objects — conditions in their places

Setting a condition puts it in one place: that of the first condition of
its type, or the end (`place`). What it leaves is decided but for the time
(`set_eq_place`), and a second condition of the type takes the same place
(`place_place`), so what a list becomes by several settings of one type is
what the last one makes of it. A list that shows a condition already is
left as it is (`set_of_shows`).
-/

namespace ClusterFleet

namespace Condition

variable {d d' desired : Condition} {cs cs' : List Condition}

/-- The list with a condition in the place of the first of its type, or at
the end where there is none. -/
def place (d : Condition) : List Condition → List Condition
  | [] => [d]
  | c :: rest => if c.type = d.type then d :: rest else c :: place d rest

/-- **Setting a condition** puts it in its place, at some time. -/
theorem set_eq_place (h : set desired cs = some cs') :
    ∃ t, cs' = place { desired with since := t } cs := by
  induction cs generalizing cs' with
  | nil =>
    obtain rfl := Option.some.inj h
    exact ⟨desired.since, rfl⟩
  | cons c rest ih =>
    rw [set_cons] at h
    split at h
    · rename_i htype
      obtain ⟨merged, hmerge, rfl⟩ := Option.map_eq_some_iff.mp h
      obtain ⟨t, rfl⟩ := merge_kept hmerge
      exact ⟨t, by rw [place, if_pos htype]⟩
    · rename_i htype
      obtain ⟨later, hlater, rfl⟩ := Option.map_eq_some_iff.mp h
      obtain ⟨t, rfl⟩ := ih hlater
      exact ⟨t, by rw [place, if_neg htype]⟩

/-- A later condition of the type takes the same place. -/
theorem place_place (h : d.type = d'.type) (cs : List Condition) :
    place d (place d' cs) = place d cs := by
  induction cs with
  | nil => rw [place, place, place, if_pos h.symm]
  | cons c rest ih =>
    by_cases htype : c.type = d'.type
    · rw [place, if_pos htype, place, if_pos h.symm, place, if_pos (htype.trans h.symm)]
    · have htype' : c.type ≠ d.type := fun heq => htype (heq.trans h)
      rw [place, if_neg htype, place, if_neg htype', place, if_neg htype', ih]

theorem find?_place (d : Condition) (cs : List Condition) : find? d.type (place d cs) = some d := by
  induction cs with
  | nil => rw [place, find?_cons, if_pos rfl]
  | cons c rest ih =>
    rw [place]
    split
    · rw [find?_cons, if_pos rfl]
    · rename_i htype
      rw [find?_cons, if_neg htype, ih]

/-- A list that shows a condition is left as it is when the condition is
set. -/
theorem set_of_shows (h : Shows desired cs) : set desired cs = some cs := by
  induction cs with
  | nil =>
    obtain ⟨c, hfind, -⟩ := h
    cases hfind
  | cons c rest ih =>
    obtain ⟨shown, hfind, hsame⟩ := h
    rw [find?_cons] at hfind
    rw [set_cons]
    split at hfind
    · rename_i htype
      obtain rfl := Option.some.inj hfind
      obtain ⟨hstatus, hreason, hmessage⟩ := hsame
      have hmerge : merge c desired = some c := by
        unfold merge
        rw [if_pos hstatus, ← htype, ← hstatus, ← hreason, ← hmessage]
      rw [if_pos htype, hmerge, Option.map_some]
    · rename_i htype
      rw [if_neg htype, ih ⟨shown, hfind, hsame⟩, Option.map_some]

/-! ## Without times -/

/-- A condition without its time. -/
def timeless (c : Condition) : Condition := { c with since := Instant.epoch }

theorem map_timeless_place (d : Condition) (cs : List Condition) :
    (place d cs).map timeless = place d.timeless (cs.map timeless) := by
  induction cs with
  | nil => rfl
  | cons c rest ih =>
    have htype : c.timeless.type = c.type := rfl
    rw [List.map_cons, place, place, htype]
    split
    · rw [if_pos (by assumption), List.map_cons]
    · rw [if_neg (by assumption), List.map_cons, ih]

end Condition

/-- **An object but for version and times**: everything that is stored of it
except its version and the times of its conditions. -/
def Resource.timeless (r : Resource) : Resource :=
  { metadata := { r.metadata with version := none }, conditions := r.conditions.map Condition.timeless }

end ClusterFleet
