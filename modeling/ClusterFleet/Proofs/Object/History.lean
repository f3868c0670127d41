import Mathlib.Data.List.Nodup
import ClusterFleet.Proofs.Object.Place
import ClusterFleet.Proofs.Time.Order

/-!
# Objects — the history of a condition

Setting conditions takes none away and moves none: those that were there
stay in front, in their order, and new ones come after them (`Extended`).
A condition that was there keeps its time exactly if all that was desired
of its type had its status, and has a later one otherwise (`RenewedBy`),
however old the times are that were desired. Over several changes this adds
up to the history of a condition (`Ages`): its time never goes back, and it
goes on whenever the status has changed.
-/

namespace ClusterFleet

namespace Condition

variable {c c' c'' d : Condition} {cs cs' cs'' desired : List Condition}

/-- The types of conditions, in order. -/
def types (cs : List Condition) : List String := cs.map Condition.type

/-! ## Lists that go on -/

/-- The second list goes on from the first: each condition has a successor
in its place, and others may come after them. -/
inductive Extended (succeeds : Condition → Condition → Prop) :
    List Condition → List Condition → Prop
  | nil (added : List Condition) : Extended succeeds [] added
  | cons {c c' : Condition} {cs cs' : List Condition} (first : succeeds c c')
      (rest : Extended succeeds cs cs') : Extended succeeds (c :: cs) (c' :: cs')

variable {R S T : Condition → Condition → Prop}

theorem Extended.refl (h : ∀ c ∈ cs, R c c) : Extended R cs cs := by
  induction cs with
  | nil => exact .nil _
  | cons c cs ih =>
    exact .cons (h c List.mem_cons_self) (ih fun c' hc' => h c' (List.mem_cons_of_mem _ hc'))

theorem Extended.trans (comp : ∀ {a b c}, R a b → S b c → T a c) (h : Extended R cs cs')
    (h' : Extended S cs' cs'') : Extended T cs cs'' := by
  induction h generalizing cs'' with
  | nil added => exact .nil _
  | cons first rest ih =>
    cases h' with
    | cons first' rest' => exact .cons (comp first first') (ih rest')

theorem Extended.mono (imp : ∀ {a b}, R a b → S a b) (h : Extended R cs cs') :
    Extended S cs cs' := by
  induction h with
  | nil added => exact .nil _
  | cons first rest ih => exact .cons (imp first) ih

/-- No condition is missing in the longer list. -/
theorem Extended.mem (h : Extended R cs cs') (hc : c ∈ cs) : ∃ c' ∈ cs', R c c' := by
  induction h with
  | nil added => cases hc
  | cons first rest ih =>
    rcases List.mem_cons.1 hc with rfl | hc
    · exact ⟨_, List.mem_cons_self, first⟩
    · obtain ⟨c', hc', hr⟩ := ih hc
      exact ⟨c', List.mem_cons_of_mem _ hc', hr⟩

/-- The types that were there stay in front. -/
theorem Extended.types (type : ∀ {a b}, R a b → b.type = a.type) (h : Extended R cs cs') :
    types cs <+: types cs' := by
  induction h with
  | nil added => exact List.nil_prefix
  | cons first rest ih =>
    rw [Condition.types, Condition.types, List.map_cons, List.map_cons, type first]
    exact List.cons_prefix_cons.2 ⟨rfl, ih⟩

/-! ## What becomes of a condition -/

/-- All that is desired of the type of a condition has its status. -/
def Keeps (desired : List Condition) (c : Condition) : Prop :=
  ∀ d ∈ desired, d.type = c.type → d.status = c.status

/-- **What setting conditions makes of one that is there**: its status and
its time stay if all that is desired of it has that status, and otherwise
its time goes on. -/
structure RenewedBy (desired : List Condition) (c c' : Condition) : Prop where
  type : c'.type = c.type
  kept : Keeps desired c → c'.status = c.status ∧ c'.since = c.since
  flipped : ¬Keeps desired c → c.since < c'.since

/-- **What time makes of a condition**: its own time does not go back, and
it goes on if the status is another. -/
structure Ages (c c' : Condition) : Prop where
  type : c'.type = c.type
  since : c.since ≤ c'.since
  flipped : c'.status ≠ c.status → c.since < c'.since

theorem Ages.refl (c : Condition) : Ages c c := ⟨rfl, le_refl _, fun h => absurd rfl h⟩

theorem Ages.trans (h : Ages c c') (h' : Ages c' c'') : Ages c c'' := by
  refine ⟨h'.type.trans h.type, le_trans h.since h'.since, fun hne => ?_⟩
  by_cases hsame : c'.status = c.status
  · exact lt_of_le_of_lt h.since (h'.flipped (hsame ▸ hne))
  · exact lt_of_lt_of_le (h.flipped hsame) h'.since

theorem RenewedBy.ages (h : RenewedBy desired c c') : Ages c c' := by
  by_cases hkeeps : Keeps desired c
  · obtain ⟨hstatus, hsince⟩ := h.kept hkeeps
    exact ⟨h.type, le_of_eq hsince.symm, fun hne => absurd hstatus hne⟩
  · have hlater := h.flipped hkeeps
    exact ⟨h.type, le_of_lt hlater, fun _ => hlater⟩

/-- Conditions of other types are not renewed. -/
theorem RenewedBy.of_ne (h : ∀ d ∈ desired, d.type ≠ c.type) : RenewedBy desired c c :=
  ⟨rfl, fun _ => ⟨rfl, rfl⟩, fun hnot => absurd (fun d hd heq => absurd heq (h d hd)) hnot⟩

/-- One condition is set, and then the others. -/
theorem RenewedBy.cons (first : RenewedBy [d] c c') (rest : RenewedBy desired c' c'') :
    RenewedBy (d :: desired) c c'' := by
  refine ⟨rest.type.trans first.type, fun hkeeps => ?_, fun hnot => ?_⟩
  · obtain ⟨hstatus, hsince⟩ := first.kept fun e he =>
      hkeeps e (List.mem_singleton.1 he ▸ List.mem_cons_self)
    obtain ⟨hstatus', hsince'⟩ := rest.kept fun e he htype =>
      (hkeeps e (List.mem_cons_of_mem _ he) (htype.trans first.type)).trans hstatus.symm
    exact ⟨hstatus'.trans hstatus, hsince'.trans hsince⟩
  · by_cases hfirst : Keeps [d] c
    · -- the first one changes nothing, so one of the others must
      obtain ⟨hstatus, hsince⟩ := first.kept hfirst
      refine hsince ▸ rest.flipped fun hrest => hnot fun e he htype => ?_
      rcases List.mem_cons.1 he with rfl | he
      · exact hfirst e (List.mem_singleton.2 rfl) htype
      · exact (hrest e he (htype.trans first.type.symm)).trans hstatus
    · exact lt_of_lt_of_le (first.flipped hfirst) rest.ages.since

/-- **A merge renews**: the time of a change is the desired one, or, if that
is no later, the next one after the existing. -/
theorem renewedBy_merge (htype : c.type = d.type) (h : merge c d = some c') :
    RenewedBy [d] c c' := by
  have hkeeps : Keeps [d] c ↔ c.status = d.status := by
    refine ⟨fun hkeeps => (hkeeps d (List.mem_singleton.2 rfl) htype.symm).symm, ?_⟩
    rintro hstatus e he -
    rw [List.mem_singleton.1 he, hstatus]
  unfold merge at h
  split at h
  · rename_i hstatus
    cases h
    exact ⟨htype.symm, fun _ => ⟨hstatus.symm, rfl⟩, fun hnot => absurd (hkeeps.2 hstatus) hnot⟩
  · rename_i hstatus
    have hnot : ¬Keeps [d] c := fun hk => hstatus (hkeeps.1 hk)
    split at h
    · rename_i hlater
      cases h
      exact ⟨htype.symm, fun hk => absurd hk hnot, fun _ => hlater⟩
    · obtain ⟨t, ht, rfl⟩ := Option.map_eq_some_iff.1 h
      exact ⟨htype.symm, fun hk => absurd hk hnot, fun _ => Instant.lt_addMicrosecond ht⟩

/-! ## Setting a condition -/

/-- Setting a condition renews the one of its type and no other, if no type
comes twice. -/
theorem extended_set (nodup : (types cs).Nodup) (h : set d cs = some cs') :
    Extended (RenewedBy [d]) cs cs' := by
  induction cs generalizing cs' with
  | nil => exact .nil _
  | cons c cs ih =>
    obtain ⟨hfresh, nodup⟩ := List.nodup_cons.1 nodup
    have hother {e : Condition} (he : e.type ≠ d.type) : RenewedBy [d] e e :=
      .of_ne fun d' hd' => List.mem_singleton.1 hd' ▸ he.symm
    rw [set_cons] at h
    split at h
    · rename_i htype
      obtain ⟨merged, hmerge, rfl⟩ := Option.map_eq_some_iff.1 h
      refine .cons (renewedBy_merge htype hmerge) (.refl fun e he => hother fun heq => ?_)
      exact hfresh (htype.trans heq.symm ▸ List.mem_map_of_mem he)
    · rename_i htype
      obtain ⟨later, hlater, rfl⟩ := Option.map_eq_some_iff.1 h
      exact .cons (hother htype) (ih nodup hlater)

/-- A condition has a place of its own. -/
theorem types_place (d : Condition) (cs : List Condition) :
    types (place d cs) = if d.type ∈ types cs then types cs else types cs ++ [d.type] := by
  induction cs with
  | nil => rfl
  | cons c cs ih =>
    rw [place]
    split
    · rename_i htype
      have hmem : d.type ∈ types (c :: cs) := htype ▸ List.mem_cons_self
      rw [if_pos hmem, types, types, List.map_cons, List.map_cons, htype]
    · rename_i htype
      have hmem : d.type ∈ types (c :: cs) ↔ d.type ∈ types cs :=
        List.mem_cons.trans (or_iff_right fun heq => htype heq.symm)
      rw [types, List.map_cons, ← types, ih]
      by_cases hd : d.type ∈ types cs
      · rw [if_pos hd, if_pos (hmem.2 hd)]
        rfl
      · rw [if_neg hd, if_neg fun h => hd (hmem.1 h)]
        rfl

/-- Setting a condition makes no type come twice. -/
theorem nodup_set (nodup : (types cs).Nodup) (h : set d cs = some cs') : (types cs').Nodup := by
  obtain ⟨t, rfl⟩ := set_eq_place h
  rw [types_place]
  split
  · exact nodup
  · rename_i hfresh
    exact List.nodup_append.2 ⟨nodup, List.nodup_singleton _, fun a ha b hb heq =>
      hfresh (List.mem_singleton.1 hb ▸ heq ▸ ha)⟩

end Condition

end ClusterFleet
