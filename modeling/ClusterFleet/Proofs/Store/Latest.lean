import ClusterFleet.Proofs.Store.Versions
import Mathlib.Data.List.Induction

/-!
# Store — reading what was written

Whatever a store has been through, a place holds the object that the last
operation on the place returned when it wrote it, or nothing once it was
removed (`object?_after_iff`). A read finds exactly this, and a list finds
the same objects, each once, in the order of their keys. An operation acts
on one place (`Operation.Sets`): documents under other kinds and keys stay as
they are (`Sound.object?_run_of_ne`).
-/

namespace ClusterFleet

/-! ## The order of keys -/

namespace Key

variable {a b c : Key}

/-- One of two different texts is smaller. -/
theorem text_lt_or_lt {m n : String} (hne : m ≠ n) : m < n ∨ n < m := by
  by_cases h : m < n
  · exact .inl h
  · by_cases h' : n < m
    · exact .inr h'
    · exact absurd (String.le_antisymm (String.not_lt.mp h') (String.not_lt.mp h)) hne

theorem before_irrefl (a : Key) : ¬before a a = true := by
  obtain ⟨ns, name⟩ := a
  cases ns <;> simp only [before, String.lt_irrefl, decide_false, Bool.false_or, Bool.and_false,
    Bool.false_eq_true, not_false_eq_true]

theorem before_trans (h : before a b = true) (h' : before b c = true) : before a c = true := by
  obtain ⟨na, xa⟩ := a
  obtain ⟨nb, xb⟩ := b
  obtain ⟨nc, xc⟩ := c
  cases na <;> cases nb <;> cases nc <;> simp only [before, Bool.or_eq_true, Bool.and_eq_true,
    decide_eq_true_eq, reduceCtorEq] at h h' ⊢
  · exact String.lt_trans h h'
  · rcases h with h | ⟨rfl, h⟩
    · rcases h' with h' | ⟨rfl, -⟩
      · exact .inl (String.lt_trans h h')
      · exact .inl h
    · exact h'.imp_right fun h' => ⟨h'.1, String.lt_trans h h'.2⟩

/-- One of two different keys comes before the other. -/
theorem before_or_before (hne : a ≠ b) : before a b = true ∨ before b a = true := by
  obtain ⟨na, xa⟩ := a
  obtain ⟨nb, xb⟩ := b
  cases na <;> cases nb <;> simp only [before, Bool.or_eq_true, Bool.and_eq_true,
    decide_eq_true_eq, or_true, true_or]
  · exact text_lt_or_lt fun hname => hne (congrArg (Key.mk none) hname)
  · rename_i m n
    by_cases hns : m = n
    · subst hns
      exact (text_lt_or_lt fun hname => hne (congrArg _ hname)).imp (.inr ⟨rfl, ·⟩) (.inr ⟨rfl, ·⟩)
    · exact (text_lt_or_lt hns).imp .inl .inl

/-- **Items with different keys are sorted in strictly ascending order.** -/
theorem pairwise_sortBy {α : Type} {key : α → Key} {items : List α} (h : (items.map key).Nodup) :
    (sortBy key items).Pairwise fun x y => before (key x) (key y) = true := by
  -- sorted is that no later key is before an earlier one, an order that is transitive and total
  have htrans : ∀ x y z : α, (!before (key y) (key x)) = true → (!before (key z) (key y)) = true →
      (!before (key z) (key x)) = true := by
    intro x y z hyx hzy
    simp only [Bool.not_eq_true', Bool.eq_false_iff] at hyx hzy ⊢
    intro hzx
    by_cases hsame : key x = key y
    · exact hzy (hsame ▸ hzx)
    · rcases before_or_before hsame with hxy | hyx'
      · exact hzy (before_trans hzx hxy)
      · exact hyx hyx'
  have htotal : ∀ x y : α, ((!before (key y) (key x)) || !before (key x) (key y)) = true := by
    intro x y
    cases hxy : before (key x) (key y) with
    | false => exact Bool.or_true _
    | true =>
      cases hyx : before (key y) (key x) with
      | false => rfl
      | true => exact absurd (before_trans hxy hyx) (before_irrefl _)
  have hsorted := List.pairwise_mergeSort htrans htotal items
  have hapart : (sortBy key items).Pairwise fun x y => key x ≠ key y :=
    List.pairwise_map.mp (((perm_sortBy key items).map key).nodup_iff.mpr h)
  refine hsorted.imp₂ (fun x y hle hne => ?_) hapart
  simp only [Bool.not_eq_true', Bool.eq_false_iff] at hle
  exact (before_or_before hne).resolve_right hle

end Key

namespace MemoryStore

/-! ## What an operation leaves in a place -/

namespace Operation

/-- An operation sets the place under a kind and key: to the object that it
wrote there and returned, or to nothing. -/
inductive Sets : Operation → MemoryStore → Kind → Key → Option Resource → Prop
  | wrote {op : Operation} {s : MemoryStore} {kind : Kind} {r : Resource}
      (h : op.Writes s kind r) : Sets op s kind r.key (some r)
  | removed (kind : Kind) (key : Key) (s : MemoryStore) : Sets (.remove kind key) s kind key none

end Operation

section Step

variable {s : MemoryStore} {op : Operation} {kind kind' : Kind} {key key' : Key}
variable {held : Option Resource} {r : Resource}

/-- **An operation sets a place**, and no other place changes. -/
theorem Sound.object?_run_of_sets (hs : s.Sound) (h : op.Sets s kind key held) (kind' : Kind)
    (key' : Key) :
    (op.run s).object? kind' key' =
      if (kind, key) = (kind', key') then held else s.object? kind' key' := by
  cases h with
  | wrote h =>
    obtain ⟨-, object, -, rfl, hheld⟩ := hs.of_writes h
    rw [hheld.object?]
    exact object?_hold kind kind' object key' s
  | removed kind key s =>
    exact object?_remove ..

/-- An operation that does not set a place leaves it as it is. -/
theorem Sound.object?_run_of_not_sets (hs : s.Sound) (h : ∀ held, ¬op.Sets s kind key held) :
    (op.run s).object? kind key = s.object? kind key := by
  rcases hs.run_cases op with ⟨kind', r, hwrites⟩ | ⟨kind', key', rfl⟩ | hsame
  · rw [hs.object?_run_of_sets (.wrote hwrites), if_neg]
    rintro heq
    obtain ⟨rfl, rfl⟩ := Prod.mk.inj heq
    exact h _ (.wrote hwrites)
  · rw [hs.object?_run_of_sets (.removed kind' key' s), if_neg]
    rintro heq
    obtain ⟨rfl, rfl⟩ := Prod.mk.inj heq
    exact h _ (.removed kind' key' s)
  · rw [object?_eq, object?_eq, hsame]

/-- **What an operation does shows in one place only**: documents under
other kinds or keys are as before. -/
theorem Sound.document?_run_of_ne (hs : s.Sound) (h : op.Sets s kind key held)
    (hne : (kind, key) ≠ (kind', key')) :
    (op.run s).document? kind' key' = s.document? kind' key' := by
  rw [(Later.of_run hs op).sound.document?, hs.document?, hs.object?_run_of_sets h, if_neg hne]

end Step

/-! ## The last write of a history -/

/-- None of some operations sets the place under a kind and key, when they
run one after the other. -/
def NeverSet (kind : Kind) (key : Key) : MemoryStore → List Operation → Prop
  | _, [] => True
  | s, op :: rest => (∀ held, ¬op.Sets s kind key held) ∧ NeverSet kind key (op.run s) rest

/-- An object is what the last operation of a history that set its place
wrote there: the operation returned it, and no later one wrote the place or
removed what is there. -/
def LastWritten (ops : List Operation) (kind : Kind) (key : Key) (r : Resource) : Prop :=
  ∃ (earlier : List Operation) (op : Operation) (later : List Operation),
    ops = earlier ++ op :: later ∧ op.Writes (after earlier) kind r ∧ r.key = key ∧
      NeverSet kind key (op.run (after earlier)) later

section History

variable {s : MemoryStore} {op : Operation} {ops later : List Operation} {kind : Kind} {key : Key}
variable {r : Resource}

theorem neverSet_snoc (h : NeverSet kind key s later)
    (hlast : ∀ held, ¬op.Sets (runAll later s) kind key held) :
    NeverSet kind key s (later ++ [op]) := by
  induction later generalizing s with
  | nil => exact ⟨hlast, trivial⟩
  | cons first rest ih => exact ⟨h.1, ih h.2 hlast⟩

/-- A place that no operation sets stays as it is. -/
theorem Sound.object?_runAll_of_neverSet (hs : s.Sound) (h : NeverSet kind key s later) :
    (runAll later s).object? kind key = s.object? kind key := by
  induction later generalizing s with
  | nil => rfl
  | cons first rest ih =>
    have hfirst : (first.run s).object? kind key = s.object? kind key :=
      hs.object?_run_of_not_sets h.1
    rw [runAll_cons, ih (Later.of_run hs first).sound h.2, hfirst]

theorem object?_of_lastWritten (h : LastWritten ops kind key r) :
    (after ops).object? kind key = some r := by
  obtain ⟨earlier, op, later, rfl, hwrites, rfl, hnever⟩ := h
  have hs : (after earlier).Sound := sound_after earlier
  have hsound : (op.run (after earlier)).Sound := (Later.of_run hs op).sound
  rw [after_append, runAll_cons, hsound.object?_runAll_of_neverSet hnever]
  exact (hs.object?_of_writes hwrites).1

/-- What stands in a place was written there last. -/
theorem lastWritten_of_object? (h : (after ops).object? kind key = some r) :
    LastWritten ops kind key r := by
  -- from the end of the history: the last operation set the place, or it is as it was before
  induction ops using List.reverseRecOn with
  | nil => cases h
  | append_singleton ops op ih =>
    have hs : (after ops).Sound := sound_after ops
    rw [after_append] at h
    change (op.run (after ops)).object? kind key = some r at h
    by_cases hsets : ∃ held, op.Sets (after ops) kind key held
    · obtain ⟨held, hsets⟩ := hsets
      rw [hs.object?_run_of_sets hsets, if_pos rfl] at h
      subst h
      cases hsets with
      | wrote hwrites => exact ⟨ops, op, [], rfl, hwrites, rfl, trivial⟩
    · have hnot : ∀ held, ¬op.Sets (after ops) kind key held := fun held h => hsets ⟨held, h⟩
      rw [hs.object?_run_of_not_sets hnot] at h
      obtain ⟨earlier, first, later, rfl, hwrites, hkey, hnever⟩ := ih h
      rw [after_append, runAll_cons] at hnot
      exact ⟨earlier, first, later ++ [op], by simp, hwrites, hkey, neverSet_snoc hnever hnot⟩

/-- **A place holds what was written there last.** -/
theorem object?_after_iff :
    (after ops).object? kind key = some r ↔ LastWritten ops kind key r :=
  ⟨lastWritten_of_object?, object?_of_lastWritten⟩

/-- A read that meets no fault finds what stands in the place. -/
theorem Sound.get_of_no_fault (hs : s.Sound) (hf : s.readFaults = []) (kind : Kind) (key : Key) :
    (s.get kind key).1 = .ok (s.object? kind key) := by
  rw [hs.get_eq hf]

end History

/-! ## Reads find the last writes -/

/-- **A store reads as it was written.** After any history of operations on
an empty store, and where no read fault is planted, a read of a kind and key
returns the object that the last write of the place returned, and nothing if
there was none since the place was last removed; the document that stands
there is the object's, and reads as the object. A list of the kind returns
its objects in strictly ascending order of their keys, and these are the ones
that single reads return. An operation that writes or removes under one kind
and key changes no document under another. -/
theorem reads_find_last_writes (ops : List Operation) (hf : (after ops).readFaults = []) :
    (∀ (kind : Kind) (key : Key), ∃ found : Option Resource,
        ((after ops).get kind key).1 = .ok found ∧
        (∀ r, found = some r ↔ LastWritten ops kind key r) ∧
        (after ops).document? kind key = found.map Resource.write ∧
        ∀ r, found = some r → r.key = key ∧ Resource.read kind r.write = .ok r) ∧
      (∀ kind : Kind, ∃ rs : List Resource, ((after ops).list kind).1 = .ok rs ∧
        (rs.Pairwise fun a b => a.key.before b.key = true) ∧
        ∀ r, r ∈ rs ↔ ((after ops).get kind r.key).1 = .ok (some r)) ∧
      ∀ (op : Operation) (kind kind' : Kind) (key key' : Key) (held : Option Resource),
        op.Sets (after ops) kind key held → (kind, key) ≠ (kind', key') →
        (after (ops ++ [op])).document? kind' key' = (after ops).document? kind' key' := by
  have hs : (after ops).Sound := sound_after ops
  refine ⟨fun kind key => ?_, fun kind => ?_, fun op kind kind' key key' held hsets hne => ?_⟩
  · refine ⟨_, hs.get_of_no_fault hf kind key, fun r => object?_after_iff, hs.document? kind key,
      fun r hr => ⟨(hs.found hr).1, Resource.read_write kind r⟩⟩
  · have hlist : ((after ops).list kind).1 =
        .ok (Key.sortBy Resource.key ((after ops).objects kind)) := by
      rw [hs.list_of_no_fault hf]
    refine ⟨_, hlist, Key.pairwise_sortBy (hs.nodup_objects kind), fun r => ?_⟩
    rw [(perm_sortBy Resource.key _).mem_iff, hs.mem_objects, hs.get_of_no_fault hf,
      Except.ok.injEq]
  · rw [after_append]
    exact hs.document?_run_of_ne hsets hne

/-- Two sets are put, a read of one and a write of its status fail, a member
with the name of the other is put, and that set is removed. -/
def shelved : List Operation :=
  [.putSet "a", .putSet "b", .plantReadFault (.transient "slow"), .get .set (.cluster "b"),
    .updateStatus .set ⟨⟨"b", none, none, none, [], none⟩, []⟩,
    .put .member ⟨⟨"a", none, none, none, [], none⟩, []⟩, .remove .set (.cluster "a")]

/-- The removed set is not found and nothing was written there last, while
the member of its name and the other set are. -/
theorem reads_find_last_writes_shelved : (after shelved).readFaults = [] ∧
    ((after shelved).get .set (.cluster "a")).1 = .ok none ∧
    (∀ r, ¬LastWritten shelved .set (.cluster "a") r) ∧
    ∃ r, ((after shelved).get .member (.cluster "a")).1 = .ok (some r) ∧
      LastWritten shelved .member (.cluster "a") r ∧
      ∃ rs, ((after shelved).list .member).1 = .ok rs ∧ r ∈ rs := by
  have hfaults : (after shelved).readFaults = [] := rfl
  have hgone : ((after shelved).document? .set (.cluster "a")).isNone = true := by decide +kernel
  have hthere : ((after shelved).document? .member (.cluster "a")).isSome = true := by
    decide +kernel
  obtain ⟨hget, hlist, -⟩ := reads_find_last_writes shelved hfaults
  obtain ⟨found, hfound, hlast, hdocument, -⟩ := hget .set (.cluster "a")
  obtain ⟨found', hfound', hlast', hdocument', hread⟩ := hget .member (.cluster "a")
  rw [hdocument, Option.isNone_map] at hgone
  rw [hdocument', Option.isSome_map] at hthere
  obtain rfl : found = none := Option.isNone_iff_eq_none.mp hgone
  obtain ⟨r, rfl⟩ := Option.isSome_iff_exists.mp hthere
  obtain ⟨rs, hrs, -, hmem⟩ := hlist .member
  have hkey : r.key = .cluster "a" := (hread r rfl).1
  refine ⟨hfaults, hfound, fun r h => ?_, r, hfound', (hlast' r).mp rfl, rs, hrs, ?_⟩
  · cases (hlast r).mpr h
  · rw [hmem, hkey]
    exact hfound'

end MemoryStore

end ClusterFleet
