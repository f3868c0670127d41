import ClusterFleet.Proofs.Hub.Membership
import Mathlib.Data.List.Perm.Basic
import Mathlib.Data.List.Nodup

/-!
# Hub — rebuilds of several sets

Rebuilds of different sets share one cache, and each overwrites or drops
entries that another reads. `Follows` says what is left of the order: after
some sets were rebuilt, a member whose label names one of them is under it,
and every other entry is kept or, when pruning, dropped if it names one of
them. One rebuild follows its set (`Sound.follows_rebuild`), and what
follows some sets and then others follows all of them (`Follows.trans`), so
the cache is decided by which sets there were (`Follows.unique`).

What a rebuild tells is not: who joined is the same after another set's
rebuild, but of those who left the ones that the other set selected are no
longer found (`Sound.churn_after_rebuild`).
-/

namespace ClusterFleet

/-- Two lists in ascending order of some text are equal if they hold the
same. -/
theorem eq_of_ascending {α : Type} {text : α → String} {xs ys : List α}
    (h : xs.Pairwise fun x y => text x < text y) (h' : ys.Pairwise fun x y => text x < text y)
    (hmem : ∀ x, x ∈ xs ↔ x ∈ ys) : xs = ys := by
  have hnodup {zs : List α} (h : zs.Pairwise fun x y => text x < text y) : zs.Nodup := by
    refine List.Pairwise.imp ?_ h
    intro x y hlt heq
    rw [heq] at hlt
    exact String.lt_irrefl _ hlt
  have hperm : xs.Perm ys := (List.perm_ext_iff_of_nodup (hnodup h) (hnodup h')).mpr hmem
  exact hperm.eq_of_pairwise (fun x y _ _ hlt hlt' => absurd hlt' (String.lt_asymm hlt)) h h'

/-- Sorted fields are decided by what is found under each name. -/
theorem Fields.Sorted.ext {α : Type} {fields fields' : List (String × α)} (h : Sorted fields)
    (h' : Sorted fields') (hsame : ∀ name, get? name fields = get? name fields') :
    fields = fields' := by
  refine eq_of_ascending h h' fun p => ⟨fun hp => ?_, fun hp => ?_⟩
  · exact mem_of_get? ((hsame p.1).symm.trans (h.get?_of_mem hp))
  · exact mem_of_get? ((hsame p.1).trans (h'.get?_of_mem hp))

namespace Membership

variable {c c' c'' : Membership} {member set : String} {selected : List String} {prune : Bool}

/-- A sound cache is decided by where each member is. -/
theorem Sound.ext (h : c.Sound) (h' : c'.Sound) (hsame : ∀ member, c.get? member = c'.get? member) :
    c = c' := by
  have hentries : c.entries = c'.entries := Fields.Sorted.ext h h' hsame
  cases c
  cases c'
  exact congrArg Membership.mk hentries

/-! ## Where members are -/

section Follows

variable {label : String → Option String} {live live' : String → Prop}

/-- **A cache after the rebuilds of some sets**, by the members' labels and
by which sets they were. -/
structure Follows (prune : Bool) (label : String → Option String) (live : String → Prop)
    (c c' : Membership) : Prop where
  /-- A member whose label names one of the sets is under it. -/
  points : ∀ {member set}, label member = some set → live set → c'.get? member = some set
  /-- Any other member that was under one of the sets is dropped when pruning. -/
  drops : ∀ {member old}, (∀ set, label member = some set → ¬live set) → prune = true →
    c.get? member = some old → live old → c'.get? member = none
  /-- Everybody else stays where they were. -/
  keeps : ∀ {member}, (∀ set, label member = some set → ¬live set) →
    (prune = true → ∀ old, c.get? member = some old → ¬live old) →
    c'.get? member = c.get? member

/-- Where nothing was rebuilt nothing changes. -/
theorem Follows.refl (prune : Bool) (label : String → Option String) (c : Membership) :
    Follows prune label (fun _ => False) c c :=
  ⟨fun _ h => h.elim, fun _ _ _ h => h.elim, fun _ _ => rfl⟩

theorem Follows.congr (h : Follows prune label live c c') (hsame : ∀ set, live set ↔ live' set) :
    Follows prune label live' c c' := by
  obtain rfl : live = live' := funext fun set => propext (hsame set)
  exact h

/-- **A rebuild follows its set.** -/
theorem Sound.follows_rebuild (h : c.Sound)
    (hselected : ∀ member, member ∈ selected ↔ label member = some set) :
    Follows prune label (· = set) c (c.rebuild set selected prune).2 := by
  have hget (member : String) : (c.rebuild set selected prune).2.get? member = _ :=
    h.get?_rebuild member
  constructor
  · rintro member _ hlabel rfl
    rw [hget, if_pos ((hselected member).mpr hlabel)]
  · rintro member _ hlabel hprune hold rfl
    rw [hget, if_neg fun hmem => hlabel _ ((hselected member).mp hmem) rfl,
      if_pos (And.intro hprune hold)]
  · intro member hlabel hold
    rw [hget, if_neg fun hmem => hlabel _ ((hselected member).mp hmem) rfl,
      if_neg fun hboth => hold hboth.1 _ hboth.2 rfl]

/-- **What follows some sets and then others follows all of them.** A member
that the first sets pointed somewhere is not under one of the others, unless
they point it there too. -/
theorem Follows.trans (h : Follows prune label live c c') (h' : Follows prune label live' c' c'') :
    Follows prune label (fun set => live set ∨ live' set) c c'' := by
  constructor
  · intro member set hlabel hlive
    by_cases hlater : live' set
    · exact h'.points hlabel hlater
    · have hthere : c'.get? member = some set := h.points hlabel (hlive.resolve_right hlater)
      -- none of the others has it: its label and its entry both name this set
      rw [h'.keeps, hthere]
      · intro other hother
        rwa [Option.some.inj (hother.symm.trans hlabel)]
      · intro _ old hold
        rwa [Option.some.inj (hold.symm.trans hthere)]
  · intro member old hlabel hprune hold hlive
    have hfirst : ∀ set, label member = some set → ¬live set :=
      fun set hset hl => hlabel set hset (.inl hl)
    have hlater : ∀ set, label member = some set → ¬live' set :=
      fun set hset hl => hlabel set hset (.inr hl)
    -- it is dropped by whichever of the sets it was under
    by_cases hearly : live old
    · have hgone : c'.get? member = none := h.drops hfirst hprune hold hearly
      rw [h'.keeps hlater, hgone]
      intro _ other hother
      cases hgone.symm.trans hother
    · have hkept : c'.get? member = c.get? member := by
        refine h.keeps hfirst fun _ other hother => ?_
        rwa [Option.some.inj (hother.symm.trans hold)]
      exact h'.drops hlater hprune (hkept.trans hold) (hlive.resolve_left hearly)
  · intro member hlabel hold
    have hkept : c'.get? member = c.get? member :=
      h.keeps (fun set hset hl => hlabel set hset (.inl hl))
        fun hprune old h hl => hold hprune old h (.inl hl)
    rw [h'.keeps (fun set hset hl => hlabel set hset (.inr hl)), hkept]
    intro hprune old h hl
    exact hold hprune old (hkept.symm.trans h) (.inr hl)

/-- **The sets decide where members are.** -/
theorem Follows.unique (h : Follows prune label live c c') (h' : Follows prune label live c c'')
    (hs' : c'.Sound) (hs'' : c''.Sound) : c' = c'' := by
  refine hs'.ext hs'' fun member => ?_
  by_cases hlabel : ∃ set, label member = some set ∧ live set
  · obtain ⟨set, hset, hlive⟩ := hlabel
    rw [h.points hset hlive, h'.points hset hlive]
  · have hother : ∀ set, label member = some set → ¬live set :=
      fun set hset hlive => hlabel ⟨set, hset, hlive⟩
    by_cases hold : prune = true ∧ ∃ old, c.get? member = some old ∧ live old
    · obtain ⟨hprune, old, hget, hlive⟩ := hold
      rw [h.drops hother hprune hget hlive, h'.drops hother hprune hget hlive]
    · have hstays : prune = true → ∀ old, c.get? member = some old → ¬live old :=
        fun hprune old hget hlive => hold ⟨hprune, old, hget, hlive⟩
      rw [h.keeps hother hstays, h'.keeps hother hstays]

end Follows

/-! ## Who is told to have joined and left -/

/-- Who joins depends only on which of the selected were under the set. -/
theorem joined_congr (h : ∀ member ∈ selected, c.get? member = some set ↔ c'.get? member = some set) :
    (join set selected c).1 = (join set selected c').1 := by
  induction selected generalizing c c' with
  | nil => rfl
  | cons m rest ih =>
    have hrest : (join set rest (c.insert m set)).1 = (join set rest (c'.insert m set)).1 := by
      refine ih fun member hmem => ?_
      rw [get?_insert, get?_insert]
      split
      · exact Iff.rfl
      · exact h member (List.mem_cons_of_mem _ hmem)
    have hhead := h m List.mem_cons_self
    change (if c.get? m = some set then _ else _ : List String) = if c'.get? m = some set then _ else _
    rw [hrest]
    by_cases hthere : c.get? m = some set
    · rw [if_pos hthere, if_pos (hhead.mp hthere)]
    · rw [if_neg hthere, if_neg fun hthere' => hthere (hhead.mpr hthere')]

/-- A selected member that was not under the set joins it. -/
theorem mem_joined (hmem : member ∈ selected) (hnew : c.get? member ≠ some set) :
    member ∈ (join set selected c).1 := by
  induction selected generalizing c with
  | nil => cases hmem
  | cons m rest ih =>
    change member ∈ (if c.get? m = some set then _ else _ : List String)
    by_cases hhead : member = m
    · subst hhead
      rw [if_neg hnew]
      exact List.mem_cons_self
    · have hrest : member ∈ rest := (List.mem_cons.mp hmem).resolve_left hhead
      have hnew' : (c.insert m set).get? member ≠ some set := by
        rw [get?_insert, if_neg hhead]
        exact hnew
      have hjoined := ih hrest hnew'
      split
      · exact hjoined
      · exact List.mem_cons_of_mem _ hjoined

/-- **Who left**: those that were under the set and are not selected. -/
theorem Sound.mem_left (h : c.Sound) :
    member ∈ (c.rebuild set selected prune).1.left ↔
      c.get? member = some set ∧ member ∉ selected := by
  have hget := get?_join set selected c member
  have hjoin : (Membership.join set selected c).2.Sound := h.join
  change member ∈ List.filter _ _ ↔ _
  rw [List.mem_filter, hjoin.mem_membersOf, hget, Bool.not_eq_true', ← Bool.not_eq_true,
    List.contains_iff_mem]
  constructor
  · rintro ⟨hset, hnot⟩
    rw [if_neg hnot] at hset
    exact ⟨hset, hnot⟩
  · rintro ⟨hset, hnot⟩
    exact ⟨by rw [if_neg hnot, hset], hnot⟩

/-- The members under a set are in ascending order. -/
theorem Sound.membersOf_ascending (h : c.Sound) (set : String) :
    (c.membersOf set).Pairwise (· < ·) :=
  List.pairwise_map.mpr (h.sublist List.filter_sublist)

/-- Those who left are told in ascending order. -/
theorem Sound.left_ascending (h : c.Sound) :
    ((c.rebuild set selected prune).1.left).Pairwise (· < ·) := by
  have hjoin : (Membership.join set selected c).2.Sound := h.join
  exact (hjoin.membersOf_ascending set).sublist List.filter_sublist

/-- **Churn after the rebuild of another set.** The same members join; those
that left are the ones that the other set did not select, since it has
pointed the others at itself. -/
theorem Sound.churn_after_rebuild {other : String} {theirs : List String} (h : c.Sound)
    (hne : set ≠ other) (hapart : ∀ member ∈ selected, member ∉ theirs) :
    ((c.rebuild other theirs prune).2.rebuild set selected prune).1.joined =
        (c.rebuild set selected prune).1.joined ∧
      ((c.rebuild other theirs prune).2.rebuild set selected prune).1.left =
        (c.rebuild set selected prune).1.left.filter fun member => !theirs.contains member := by
  have hget (member : String) : (c.rebuild other theirs prune).2.get? member = _ :=
    h.get?_rebuild member
  -- the other rebuild takes entries away from the set, and gives it none
  have hunder (member : String) : (c.rebuild other theirs prune).2.get? member = some set ↔
      c.get? member = some set ∧ member ∉ theirs := by
    rw [hget]
    by_cases htheirs : member ∈ theirs
    · rw [if_pos htheirs]
      exact iff_of_false (fun heq => hne (Option.some.inj heq).symm) fun hboth => hboth.2 htheirs
    · rw [if_neg htheirs]
      by_cases hdropped : prune = true ∧ c.get? member = some other
      · rw [if_pos hdropped]
        refine iff_of_false (fun heq => nomatch heq) fun hboth => ?_
        exact hne (Option.some.inj (hboth.1.symm.trans hdropped.2))
      · rw [if_neg hdropped]
        exact ⟨fun hset => ⟨hset, htheirs⟩, fun hboth => hboth.1⟩
  refine ⟨?_, ?_⟩
  · refine joined_congr fun member hmem => ?_
    rw [hunder]
    exact ⟨fun hboth => hboth.1, fun hset => ⟨hset, hapart member hmem⟩⟩
  · have hsound : (c.rebuild other theirs prune).2.Sound := h.rebuild
    refine eq_of_ascending hsound.left_ascending (h.left_ascending.sublist List.filter_sublist) ?_
    intro member
    rw [hsound.mem_left, hunder, List.mem_filter, h.mem_left, Bool.not_eq_true',
      ← Bool.not_eq_true, List.contains_iff_mem, and_right_comm]

end Membership

end ClusterFleet
