import ClusterFleet.Proofs.Object.InPlace
import ClusterFleet.Proofs.Update.Outcome

/-!
# Status updates — settings in any order

Conditions of different types may be set in any order. Each of those that
are there already is set in its own place, and the others come behind the
list as they are, in the order in which they were set (`AllSet`). So two
orders differ in what comes behind at most, and there only in the order
(`settings_commute`). None of them spoils the calendar for another: all can
be set one after the other if each can be alone (`exists_applyAll`).
-/

namespace ClusterFleet

namespace Condition

variable {c d other : Condition} {cs cs' cs₁ cs₂ desired desired' front back : List Condition}

/-! ## What decides whether a condition can be set -/

/-- A condition can be set just if it can be merged with the first of its
type. -/
theorem exists_set_iff : (∃ cs', set d cs = some cs') ↔
    ∀ c, find? d.type cs = some c → ∃ c', merge c d = some c' := by
  induction cs with
  | nil => exact iff_of_true ⟨[d], rfl⟩ fun c hfind => nomatch hfind
  | cons c cs ih =>
    rw [set_cons, find?_cons]
    by_cases htype : c.type = d.type
    · rw [if_pos htype, if_pos htype]
      constructor
      · rintro ⟨cs', hset⟩ c' hfind
        obtain ⟨merged, hmerge, -⟩ := Option.map_eq_some_iff.1 hset
        exact ⟨merged, Option.some.inj hfind ▸ hmerge⟩
      · intro hmerges
        obtain ⟨merged, hmerge⟩ := hmerges c rfl
        exact ⟨merged :: cs, by rw [hmerge, Option.map_some]⟩
    · rw [if_neg htype, if_neg htype, ← ih]
      constructor
      · rintro ⟨cs', hset⟩
        obtain ⟨later, hlater, -⟩ := Option.map_eq_some_iff.1 hset
        exact ⟨later, hlater⟩
      · rintro ⟨later, hlater⟩
        exact ⟨c :: later, by rw [hlater, Option.map_some]⟩

/-- Another type that is set does not keep a condition from being set. -/
theorem exists_set_of_ne (h : ∃ cs', set d cs = some cs') (hset : set other cs = some cs')
    (hne : d.type ≠ other.type) : ∃ cs'', set d cs' = some cs'' := by
  rw [exists_set_iff] at h ⊢
  rwa [find?_set_of_ne hset hne]

/-! ## Looking for a type -/

theorem find?_append (type : String) (cs cs' : List Condition) :
    find? type (cs ++ cs') = (find? type cs).or (find? type cs') := List.find?_append

/-- Among conditions of different types the order does not matter for what
is found. -/
theorem find?_of_perm {type : String} (perm : cs.Perm cs') (distinct : (types cs).Nodup) :
    find? type cs = find? type cs' := by
  induction perm with
  | nil => rfl
  | cons c _ ih =>
    rw [find?_cons, find?_cons, ih (List.nodup_cons.1 distinct).2]
  | swap c d cs =>
    have hne : d.type ≠ c.type := fun heq =>
      (List.nodup_cons.1 distinct).1 (heq ▸ List.mem_cons_self)
    rw [find?_cons, find?_cons, find?_cons, find?_cons]
    by_cases hd : d.type = type
    · rw [if_pos hd, if_neg fun hc => hne (hd.trans hc.symm), if_pos hd]
    · rw [if_neg hd, if_neg hd]
  | trans first _ ih ih' =>
    exact (ih distinct).trans (ih' ((first.map Condition.type).nodup_iff.1 distinct))

/-- There is one order only for at most one condition. -/
theorem eq_of_perm_of_length (perm : cs.Perm cs') (hone : cs.length ≤ 1) : cs = cs' := by
  cases cs with
  | nil => exact (List.nil_perm.1 perm).symm
  | cons c rest =>
    obtain rfl : rest = [] := List.length_eq_zero_iff.1 (by simpa using hone)
    exact List.singleton_perm.1 perm

/-! ## All settings at once -/

/-- **What setting conditions of different types comes to**, along the list:
a condition is merged with the one of its type if there is one, which is
then set. Those that are left at the end of the list come behind it. -/
inductive AllSet : List Condition → List Condition → List Condition → Prop
  | added (desired : List Condition) : AllSet desired [] desired
  | kept {c : Condition} {desired cs cs' : List Condition} (fresh : c.type ∉ types desired)
      (rest : AllSet desired cs cs') : AllSet desired (c :: cs) (c :: cs')
  | merged {c c' d : Condition} {front back cs cs' : List Condition} (type : d.type = c.type)
      (merge : merge c d = some c') (rest : AllSet (front ++ back) cs cs') :
      AllSet (front ++ d :: back) (c :: cs) (c' :: cs')

/-- What settings make of a condition that is there: it stays, or is merged
with one of its type. -/
def RevisedBy (desired : List Condition) (c c' : Condition) : Prop :=
  c' = c ∨ ∃ d ∈ desired, d.type = c.type ∧ merge c d = some c'

theorem RevisedBy.mono {c' : Condition} (h : RevisedBy desired c c') (hsub : desired ⊆ desired') :
    RevisedBy desired' c c' := by
  obtain rfl | ⟨d, hd, hmerge⟩ := h
  · exact .inl rfl
  · exact .inr ⟨d, hsub hd, hmerge⟩

theorem types_append_cons : types (front ++ d :: back) = types front ++ d.type :: types back :=
  List.map_append

/-- A type that comes once is not among the others. -/
theorem fresh_of_distinct (distinct : (types (front ++ d :: back)).Nodup) :
    d.type ∉ types (front ++ back) ∧ (types (front ++ back)).Nodup := by
  rw [types_append_cons, List.nodup_middle, List.nodup_cons] at distinct
  rwa [types, List.map_append]

/-- Every condition of the list has its successor in its place. -/
theorem AllSet.revised (h : AllSet desired cs cs') :
    List.Forall₂ (RevisedBy desired) cs (cs'.take cs.length) := by
  induction h with
  | added desired => exact .nil
  | kept fresh rest ih => exact .cons (.inl rfl) ih
  | @merged c c' d front back cs cs' htype hmerge rest ih =>
    have hd : d ∈ front ++ d :: back := List.mem_append_right _ List.mem_cons_self
    refine .cons (.inr ⟨d, hd, htype, hmerge⟩) (ih.imp fun _ _ h => h.mono ?_)
    exact (List.sublist_cons_self d back).append_left front |>.subset

/-- Behind the list come those whose types it does not have, as they are. -/
theorem AllSet.behind (h : AllSet desired cs cs') (distinct : (types desired).Nodup) :
    cs'.drop cs.length = desired.filter fun d => d.type ∉ types cs := by
  induction h with
  | added desired => simp [types]
  | @kept c desired cs cs' fresh rest ih =>
    rw [List.length_cons, List.drop_succ_cons, ih distinct]
    refine List.filter_congr fun d hd => ?_
    have hne : d.type ≠ c.type := fun heq => fresh (heq ▸ List.mem_map_of_mem hd)
    simp [types, hne]
  | @merged c c' d front back cs cs' htype hmerge rest ih =>
    obtain ⟨hfresh, hothers⟩ := fresh_of_distinct distinct
    -- the condition of this type is left out on both sides, and the others are of other types
    rw [List.length_cons, List.drop_succ_cons, ih hothers]
    have hne (e : Condition) (he : e ∈ front ++ back) :
        decide (e.type ∉ types cs) = decide (e.type ∉ types (c :: cs)) := by
      have hne : e.type ≠ c.type := fun heq => hfresh (htype ▸ heq ▸ List.mem_map_of_mem he)
      simp [types, hne]
    rw [List.filter_congr hne, List.filter_append, List.filter_append, List.filter_cons_of_neg]
    simp [types, htype]

/-- **The order of the settings does not matter** for the conditions that
are there. -/
theorem AllSet.take_eq (h : AllSet desired cs cs₁) (h' : AllSet desired' cs cs₂)
    (distinct : (types desired).Nodup) (perm : desired.Perm desired') :
    cs₁.take cs.length = cs₂.take cs.length := by
  induction h generalizing desired' cs₂ with
  | added desired => rfl
  | @kept c desired cs cs' fresh rest ih =>
    cases h' with
    | kept _ rest' =>
      rw [List.length_cons, List.take_succ_cons, List.take_succ_cons, ih rest' distinct perm]
    | @merged _ _ d front back _ _ htype =>
      have hd : d ∈ desired := perm.mem_iff.2 (List.mem_append_right _ List.mem_cons_self)
      exact absurd (htype ▸ List.mem_map_of_mem hd) fresh
  | @merged c c' d front back cs cs' htype hmerge rest ih =>
    cases h' with
    | kept fresh _ =>
      have hd : d ∈ desired' := perm.mem_iff.1 (List.mem_append_right _ List.mem_cons_self)
      exact absurd (htype ▸ List.mem_map_of_mem hd) fresh
    | @merged _ c'' e front' back' _ cs'' htype' hmerge' rest' =>
      obtain ⟨hfresh, hothers⟩ := fresh_of_distinct distinct
      -- both orders have the same condition of this type
      have hmid : (d :: (front ++ back)).Perm (e :: (front' ++ back')) :=
        List.perm_middle.symm.trans (perm.trans List.perm_middle)
      obtain rfl : e = d := by
        refine (List.mem_cons.1 (hmid.mem_iff.2 List.mem_cons_self)).resolve_right fun he => ?_
        exact hfresh (htype.trans htype'.symm ▸ List.mem_map_of_mem he)
      obtain rfl : c' = c'' := Option.some.inj (hmerge.symm.trans hmerge')
      rw [List.length_cons, List.take_succ_cons, List.take_succ_cons,
        ih rest' hothers hmid.cons_inv]

end Condition

namespace StatusUpdate

open Condition

variable {c d : Condition} {cs cs' desired desired' front back : List Condition}

/-! ## One setting after the other -/

theorem applyAll_append_iff : Mutation.applyAll ((front ++ back).map Mutation.set) cs = .ok cs' ↔
    ∃ mid, Mutation.applyAll (front.map Mutation.set) cs = .ok mid ∧
      Mutation.applyAll (back.map Mutation.set) mid = .ok cs' := by
  induction front generalizing cs with
  | nil => exact ⟨fun h => ⟨cs, rfl, h⟩, fun ⟨_, hmid, h⟩ => Except.ok.inj hmid ▸ h⟩
  | cons d front ih =>
    rw [List.cons_append, applyAll_set_cons, applyAll_set_cons]
    cases set d cs with
    | none => exact ⟨nofun, fun ⟨_, hmid, _⟩ => nomatch hmid⟩
    | some after => exact ih

/-- A list that has none of the types gets all conditions behind it. -/
theorem applyAll_of_fresh (distinct : (types (cs ++ desired)).Nodup) :
    Mutation.applyAll (desired.map Mutation.set) cs = .ok (cs ++ desired) := by
  induction desired generalizing cs with
  | nil => rw [List.append_nil]; rfl
  | cons d desired ih =>
    have hfresh : d.type ∉ types cs := fun hmem => by
      refine (fresh_of_distinct distinct).1 ?_
      rw [types, List.map_append]
      exact List.mem_append_left _ hmem
    rw [List.append_cons] at distinct ⊢
    rw [applyAll_set_cons, set_of_fresh hfresh]
    exact ih distinct

/-- A condition of which nothing is desired stays in front. -/
theorem applyAll_cons_of_fresh (fresh : c.type ∉ types desired)
    (h : Mutation.applyAll (desired.map Mutation.set) (c :: cs) = .ok cs') :
    ∃ rest, cs' = c :: rest ∧ Mutation.applyAll (desired.map Mutation.set) cs = .ok rest := by
  induction desired generalizing cs with
  | nil => exact ⟨cs, (Except.ok.inj h).symm, rfl⟩
  | cons d desired ih =>
    obtain ⟨hne, hfresh⟩ := not_or.1 fun hor => fresh (List.mem_cons.2 hor)
    obtain ⟨mid, hset, hlater⟩ := set_of_applyAll_cons h
    rw [set_cons, if_neg hne] at hset
    obtain ⟨mid, hmid, rfl⟩ := Option.map_eq_some_iff.1 hset
    obtain ⟨rest, rfl, hrest⟩ := ih hfresh hlater
    exact ⟨rest, rfl, by rw [applyAll_set_cons, hmid]; exact hrest⟩

/-- **Settings one after the other** are all settings at once, if they are
of different types. -/
theorem allSet_of_applyAll (distinct : (types desired).Nodup)
    (h : Mutation.applyAll (desired.map Mutation.set) cs = .ok cs') : AllSet desired cs cs' := by
  induction cs generalizing desired cs' with
  | nil =>
    obtain rfl : desired = cs' :=
      Except.ok.inj ((applyAll_of_fresh (List.nil_append desired ▸ distinct)).symm.trans h)
    exact .added desired
  | cons c cs ih =>
    by_cases hthere : c.type ∈ types desired
    · obtain ⟨front, d, back, rfl, hfront, htype⟩ := exists_first hthere
      obtain ⟨hfresh, hothers⟩ := fresh_of_distinct distinct
      have hback : c.type ∉ types back := fun hmem =>
        hfresh (by rw [types, List.map_append, htype]; exact List.mem_append_right _ hmem)
      -- the head waits for its own setting, and takes no part in the others
      obtain ⟨mid, hbefore, hafter⟩ := applyAll_append_iff.1 h
      obtain ⟨mid, rfl, hfirst⟩ := applyAll_cons_of_fresh hfront hbefore
      obtain ⟨next, hset, hafter⟩ := set_of_applyAll_cons hafter
      rw [set_cons, if_pos htype.symm] at hset
      obtain ⟨merged, hmerge, rfl⟩ := Option.map_eq_some_iff.1 hset
      have hmerged : merged.type = c.type := by
        obtain ⟨t, rfl⟩ := merge_kept hmerge
        exact htype
      obtain ⟨rest, rfl, hlast⟩ := applyAll_cons_of_fresh (hmerged ▸ hback) hafter
      exact .merged htype hmerge (ih hothers (applyAll_append_iff.2 ⟨mid, hfirst, hlast⟩))
    · obtain ⟨rest, rfl, hrest⟩ := applyAll_cons_of_fresh hthere h
      exact .kept hthere (ih distinct hrest)

/-- **All conditions can be set** one after the other if each can be alone. -/
theorem exists_applyAll (distinct : (types desired).Nodup)
    (each : ∀ d ∈ desired, ∃ cs', set d cs = some cs') :
    ∃ cs', Mutation.applyAll (desired.map Mutation.set) cs = .ok cs' := by
  induction desired generalizing cs with
  | nil => exact ⟨cs, rfl⟩
  | cons d desired ih =>
    obtain ⟨hfresh, hothers⟩ := List.nodup_cons.1 distinct
    obtain ⟨mid, hset⟩ := each d List.mem_cons_self
    rw [applyAll_set_cons, hset]
    refine ih hothers fun e he => exists_set_of_ne (each e (List.mem_cons_of_mem _ he)) hset ?_
    exact fun heq => hfresh (heq ▸ List.mem_map_of_mem he)

/-! ## Two orders -/

/-- **What two orders of the same settings agree on**, for a list that both
start from. -/
structure Agree (desired cs cs₁ cs₂ : List Condition) : Prop where
  perm : cs₁.Perm cs₂
  /-- The same conditions are found. -/
  found : ∀ type, find? type cs₁ = find? type cs₂
  /-- The conditions that were there are in their places, and have become
  the same. -/
  places : cs₁.take cs.length = cs₂.take cs.length
  revised : List.Forall₂ (RevisedBy desired) cs (cs₁.take cs.length)
  /-- At most one that was not there: nothing depends on the order. -/
  equal : (desired.filter fun d => d.type ∉ types cs).length ≤ 1 → cs₁ = cs₂

theorem agree_of_allSet {cs₁ cs₂ : List Condition} (h : AllSet desired cs cs₁)
    (h' : AllSet desired' cs cs₂) (distinct : (types desired).Nodup)
    (perm : desired.Perm desired') : Agree desired cs cs₁ cs₂ := by
  have distinct' : (types desired').Nodup := (perm.map type).nodup_iff.1 distinct
  have hplaces : cs₁.take cs.length = cs₂.take cs.length := h.take_eq h' distinct perm
  have hbehind : (cs₁.drop cs.length).Perm (cs₂.drop cs.length) := by
    rw [h.behind distinct, h'.behind distinct']
    exact perm.filter _
  have hdistinct : (types (cs₁.drop cs.length)).Nodup := by
    rw [h.behind distinct]
    exact distinct.sublist (List.filter_sublist.map _)
  -- both lists are the same conditions in front, and behind them the same in another order
  refine ⟨?_, fun type => ?_, hplaces, h.revised, fun hone => ?_⟩
  · rw [← List.take_append_drop cs.length cs₁, ← List.take_append_drop cs.length cs₂, hplaces]
    exact hbehind.append_left _
  · rw [← List.take_append_drop cs.length cs₁, ← List.take_append_drop cs.length cs₂, hplaces,
      find?_append, find?_append, find?_of_perm hbehind hdistinct]
  · rw [← h.behind distinct] at hone
    have hsame : cs₁.drop cs.length = cs₂.drop cs.length := eq_of_perm_of_length hbehind hone
    rw [← List.take_append_drop cs.length cs₁, hplaces, hsame, List.take_append_drop]

/-- **Settings of different types commute.** Where each of them can be made
on the list alone, they can all be made in any order, and any two orders
agree on what comes out. -/
theorem settings_commute (distinct : (types desired).Nodup) (perm : desired.Perm desired')
    (each : ∀ d ∈ desired, ∃ cs', set d cs = some cs') :
    ∃ cs₁ cs₂, Mutation.applyAll (desired.map Mutation.set) cs = .ok cs₁ ∧
      Mutation.applyAll (desired'.map Mutation.set) cs = .ok cs₂ ∧ Agree desired cs cs₁ cs₂ := by
  have distinct' : (types desired').Nodup := (perm.map type).nodup_iff.1 distinct
  obtain ⟨cs₁, happly⟩ := exists_applyAll distinct each
  obtain ⟨cs₂, happly'⟩ := exists_applyAll distinct' fun d hd => each d (perm.mem_iff.2 hd)
  exact ⟨cs₁, cs₂, happly, happly', agree_of_allSet (allSet_of_applyAll distinct happly)
    (allSet_of_applyAll distinct' happly') distinct perm⟩

namespace Mixed

open Condition.Repeated

/-- Of these one type is there twice, and two are not there. -/
def conditions : List Condition := [told "Ready" .fails, told "Denied" .holds, told "Joined" .holds]

end Mixed

/-- Two orders of settings in a list that has a type twice; they leave
different lists. -/
theorem settings_commute_mixed : ∃ cs₁ cs₂,
    Mutation.applyAll (Mixed.conditions.map Mutation.set) Repeated.list = .ok cs₁ ∧
    Mutation.applyAll (Mixed.conditions.reverse.map Mutation.set) Repeated.list = .ok cs₂ ∧
    Agree Mixed.conditions Repeated.list cs₁ cs₂ ∧ cs₁ ≠ cs₂ := by
  have heach : ∀ d ∈ Mixed.conditions, (set d Repeated.list).isSome = true := by decide
  obtain ⟨cs₁, cs₂, happly, happly', hagree⟩ := settings_commute (by decide)
    (List.reverse_perm Mixed.conditions).symm fun d hd => Option.isSome_iff_exists.1 (heach d hd)
  refine ⟨cs₁, cs₂, happly, happly', hagree, ?_⟩
  rintro rfl
  exact absurd (happly.trans happly'.symm) (by decide)

end StatusUpdate

end ClusterFleet
