import ClusterFleet.Proofs.Hub.Churn

/-!
# Hub — one rebuild of the membership cache

A rebuild reads and writes one map: it points the selected at the set while
it notes who was not there, and then looks through the whole map for those
who left. What comes of it is told by the cache as it was before
(`Rebuilt`): each member's entry, who joined and who left, and who is under
the set in the end. A second rebuild for the same selection finds everybody
where they are (`Sound.rebuild_again`).
-/

namespace ClusterFleet

namespace Membership

variable {c c' : Membership} {churn : Churn} {set member : String}
variable {selected selected' : List String} {prune : Bool}

/-! ## Who joined -/

/-- The first of the selected joins if it is not under the set, and is under
it when the others are looked at. -/
theorem joined_cons (set first : String) (rest : List String) (c : Membership) :
    (join set (first :: rest) c).1 =
      if c.get? first = some set then (join set rest (c.insert first set)).1
      else first :: (join set rest (c.insert first set)).1 := rfl

/-- **Who joined**: the selected that were not under the set. -/
theorem mem_joined_iff :
    member ∈ (join set selected c).1 ↔ member ∈ selected ∧ c.get? member ≠ some set := by
  refine ⟨fun hmem => ?_, fun ⟨hmem, hnew⟩ => mem_joined hmem hnew⟩
  induction selected generalizing c with
  | nil => cases hmem
  | cons first rest ih =>
    -- one of the others that joins is not the first, which is under the set by then
    have hlater (hrest : member ∈ (join set rest (c.insert first set)).1) :
        member ∈ first :: rest ∧ c.get? member ≠ some set := by
      obtain ⟨hrest, hnew⟩ := ih hrest
      rw [get?_insert] at hnew
      split at hnew
      · exact absurd rfl hnew
      · exact ⟨List.mem_cons_of_mem _ hrest, hnew⟩
    rw [joined_cons] at hmem
    split at hmem
    · exact hlater hmem
    · rename_i hnew
      rcases List.mem_cons.mp hmem with rfl | hmem
      · exact ⟨List.mem_cons_self, hnew⟩
      · exact hlater hmem

/-- **They are told in the order in which they were first selected.** The
first of the selected is under the set when the others are looked at, so it
does not join again. -/
theorem joined_in_order (set : String) (selected : List String) (c : Membership) :
    (join set selected c).1.Pairwise fun a b => selected.idxOf a < selected.idxOf b := by
  induction selected generalizing c with
  | nil => exact .nil
  | cons first rest ih =>
    -- among the others everybody moves back by one, since none of them is the first
    have hlater {a : String} (ha : a ∈ (join set rest (c.insert first set)).1) :
        (first :: rest).idxOf a = rest.idxOf a + 1 := by
      refine List.idxOf_cons_ne _ ?_
      rintro rfl
      exact (mem_joined_iff.mp ha).2 (by rw [get?_insert, if_pos rfl])
    have hrest : (join set rest (c.insert first set)).1.Pairwise
        fun a b => (first :: rest).idxOf a < (first :: rest).idxOf b := by
      refine (ih _).imp_of_mem fun ha hb hlt => ?_
      rw [hlater ha, hlater hb]
      omega
    rw [joined_cons]
    split
    · exact hrest
    · refine List.pairwise_cons.mpr ⟨fun b hb => ?_, hrest⟩
      rw [hlater hb, List.idxOf_cons_self]
      omega

/-! ## What comes of a rebuild -/

/-- **Who is under the set** after a rebuild: the selected and, if nobody is
dropped, those who were. -/
theorem Sound.under_rebuild (h : c.Sound) (member : String) :
    (c.rebuild set selected prune).2.get? member = some set ↔
      member ∈ selected ∨ prune = false ∧ c.get? member = some set := by
  rw [h.get?_rebuild]
  by_cases hsel : member ∈ selected
  · rw [if_pos hsel]
    exact iff_of_true rfl (.inl hsel)
  · rw [if_neg hsel, or_iff_right hsel]
    cases prune with
    | true =>
      refine iff_of_false (fun hunder => ?_) fun hkept => nomatch hkept.1
      split at hunder
      · cases hunder
      · rename_i hother
        exact hother ⟨rfl, hunder⟩
    | false => rw [if_neg fun hboth => Bool.false_ne_true hboth.1, and_iff_right rfl]

/-- **What comes of a rebuild**, by the cache before it. -/
structure Rebuilt (set : String) (selected : List String) (prune : Bool) (c : Membership)
    (churn : Churn) (c' : Membership) : Prop where
  sound : c'.Sound
  points : ∀ member ∈ selected, c'.get? member = some set
  /-- Those who were under the set and are not selected are dropped, if
  anybody is. -/
  drops : ∀ member ∉ selected, c.get? member = some set →
    c'.get? member = if prune then none else some set
  keeps : ∀ member ∉ selected, c.get? member ≠ some set → c'.get? member = c.get? member
  joined : ∀ member, member ∈ churn.joined ↔ member ∈ selected ∧ c.get? member ≠ some set
  /-- Nobody joins twice. -/
  nodup : churn.joined.Nodup
  /-- They join in the order in which they were first selected. -/
  inOrder : churn.joined.Pairwise fun a b => selected.idxOf a < selected.idxOf b
  left : ∀ member, member ∈ churn.left ↔ member ∉ selected ∧ c.get? member = some set
  ascending : churn.left.Pairwise (· < ·)
  disjoint : churn.joined.Disjoint churn.left
  /-- Under the set are the selected and, if nobody is dropped, those who
  left. -/
  members : ∀ member,
    member ∈ c'.membersOf set ↔ member ∈ selected ∨ prune = false ∧ member ∈ churn.left
  membersAscending : (c'.membersOf set).Pairwise (· < ·)

/-- **A rebuild is exact.** Whatever the cache was, whoever is selected and
however often, it does to the entry of each member what `Rebuilt` says, and
just those who joined and left are told. -/
theorem rebuild_is_exact (cached : c.Sound)
    (rebuilt : c.rebuild set selected prune = (churn, c')) :
    Rebuilt set selected prune c churn c' := by
  have hsound : (c.rebuild set selected prune).2.Sound := cached.rebuild
  have hget (member : String) : (c.rebuild set selected prune).2.get? member = _ :=
    cached.get?_rebuild member
  have hunder (member : String) : (c.rebuild set selected prune).2.get? member = some set ↔ _ :=
    cached.under_rebuild member
  have hleft (member : String) : member ∈ (c.rebuild set selected prune).1.left ↔ _ :=
    cached.mem_left
  have hascending : (c.rebuild set selected prune).1.left.Pairwise (· < ·) :=
    cached.left_ascending
  have hjoined : (c.rebuild set selected prune).1.joined = (join set selected c).1 := rfl
  rw [rebuilt] at hsound hget hunder hleft hascending hjoined
  have hmem (member : String) :
      member ∈ churn.joined ↔ member ∈ selected ∧ c.get? member ≠ some set := by
    rw [hjoined, mem_joined_iff]
  have horder : churn.joined.Pairwise fun a b => selected.idxOf a < selected.idxOf b := by
    rw [hjoined]
    exact joined_in_order set selected c
  constructor
  case sound => exact hsound
  case points =>
    intro member hsel
    rw [hget, if_pos hsel]
  case drops =>
    intro member hsel hthere
    rw [hget, if_neg hsel, hthere]
    cases prune with
    | true => rw [if_pos ⟨rfl, rfl⟩, if_pos rfl]
    | false => rw [if_neg fun hboth => Bool.false_ne_true hboth.1, if_neg Bool.false_ne_true]
  case keeps =>
    intro member hsel hother
    rw [hget, if_neg hsel, if_neg fun hboth => hother hboth.2]
  case joined => exact hmem
  case nodup =>
    refine horder.imp fun hlt heq => ?_
    rw [heq] at hlt
    exact Nat.lt_irrefl _ hlt
  case inOrder => exact horder
  case left =>
    intro member
    rw [hleft, and_comm]
  case ascending => exact hascending
  case disjoint =>
    intro member hin hout
    exact ((hleft member).mp hout).2 ((hmem member).mp hin).1
  case members =>
    intro member
    rw [hsound.mem_membersOf, hunder, hleft]
    by_cases hsel : member ∈ selected
    · exact iff_of_true (.inl hsel) (.inl hsel)
    · rw [or_iff_right hsel, or_iff_right hsel, and_iff_left hsel]
  case membersAscending => exact hsound.membersOf_ascending set

/-- Of four selected one is there already and one is selected twice, so two
join, one of them from another set; a member that is not selected is
dropped. -/
theorem rebuild_is_exact_moved :
    let c : Membership := ⟨[("a", "x"), ("b", "s"), ("c", "s"), ("d", "x")]⟩
    let c' : Membership := ⟨[("a", "x"), ("b", "s"), ("d", "s"), ("e", "s")]⟩
    c.Sound ∧ Rebuilt "s" ["d", "b", "e", "d"] true c ⟨["d", "e"], ["c"]⟩ c' := by
  have hcached : Sound ⟨[("a", "x"), ("b", "s"), ("c", "s"), ("d", "x")]⟩ := by
    unfold Sound Fields.Sorted
    decide +kernel
  exact ⟨hcached, rebuild_is_exact hcached (by decide +kernel)⟩

/-! ## The same rebuild again -/

/-- **A rebuild for the same selection finds everybody where they are**: nobody
joins, and those who left are found again unless they were dropped. -/
theorem Sound.rebuild_again (h : c.Sound)
    (same : ∀ member, member ∈ selected' ↔ member ∈ selected) :
    (c.rebuild set selected prune).2.rebuild set selected' prune =
      (⟨[], if prune then [] else (c.rebuild set selected prune).1.left⟩,
        (c.rebuild set selected prune).2) := by
  let first := c.rebuild set selected prune
  have hfirst : first.2.Sound := h.rebuild
  have hunder (member : String) : first.2.get? member = some set ↔ _ := h.under_rebuild member
  have hjoined : (first.2.rebuild set selected' prune).1.joined = [] := by
    refine List.eq_nil_iff_forall_not_mem.mpr fun member hmem => ?_
    obtain ⟨hsel, hnew⟩ := mem_joined_iff.mp hmem
    exact hnew ((hunder member).mpr (.inl ((same member).mp hsel)))
  have hleft : (first.2.rebuild set selected' prune).1.left =
      if prune then [] else first.1.left := by
    have hmem (member : String) : member ∈ (first.2.rebuild set selected' prune).1.left ↔
        prune = false ∧ c.get? member = some set ∧ member ∉ selected := by
      rw [hfirst.mem_left, hunder, same, or_and_right, and_not_self_iff, false_or, and_assoc]
    cases prune with
    | true =>
      exact List.eq_nil_iff_forall_not_mem.mpr fun member hin => nomatch ((hmem member).mp hin).1
    | false =>
      refine @eq_of_ascending _ id _ _ hfirst.left_ascending h.left_ascending fun member => ?_
      rw [hmem, and_iff_right rfl, if_neg Bool.false_ne_true]
      exact h.mem_left.symm
  have hcache : (first.2.rebuild set selected' prune).2 = first.2 := by
    have hagain : (first.2.rebuild set selected' prune).2.Sound := hfirst.rebuild
    refine hagain.ext hfirst fun member => ?_
    rw [hfirst.get?_rebuild]
    by_cases hsel : member ∈ selected
    · rw [if_pos ((same member).mpr hsel), (hunder member).mpr (.inl hsel)]
    · rw [if_neg fun hsel' => hsel ((same member).mp hsel'), if_neg]
      -- when pruning nobody is left under the set but the selected
      rintro ⟨hprune, hthere⟩
      rcases (hunder member).mp hthere with hsel' | ⟨hkept, -⟩
      · exact hsel hsel'
      · exact Bool.false_ne_true (hkept.symm.trans hprune)
  exact Prod.ext (congrArg₂ Churn.mk hjoined hleft) hcache

end Membership

end ClusterFleet
