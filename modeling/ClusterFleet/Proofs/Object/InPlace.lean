import ClusterFleet.Object.Edit
import ClusterFleet.Proofs.Object.History

/-!
# Objects — what an edit in place leaves

Setting a condition in place is `Condition.set` done field by field. Whether
the list has changed is told from the fields that were written, and agrees
with the list (`setInPlace_eq`). A set that breaks off leaves the list
alone, since it works the new time out before it writes the first field.

`SetEnds` lists the five ends of setting a condition, by what the list has
of its type. `setting_is_exact` says that there are no others.
-/

namespace ClusterFleet

/-! ## Edits step by step -/

namespace InPlace

variable {σ α β : Type} {m : InPlace σ α} {f : α → InPlace σ β} {s s' : σ}

theorem return_eq (a : α) (s : σ) : (pure a : InPlace σ α) s = .ok a s := rfl

theorem get_then (f : σ → InPlace σ α) (s : σ) : (get >>= f : InPlace σ α) s = f s s := rfl

theorem then_of_ok {a : α} (h : m s = .ok a s') : (m >>= f) s = f a s' := by
  show EStateM.bind m f s = f a s'
  rw [EStateM.bind, h]

/-- Where an edit breaks off, nothing that was to follow is done. -/
theorem then_of_error {fault : EditFault} (h : m s = .error fault s') :
    (m >>= f) s = .error fault s' := by
  show EStateM.bind m f s = .error fault s'
  rw [EStateM.bind, h]

end InPlace

namespace Condition

variable {desired existing c d : Condition} {cs cs' before after : List Condition}
variable {write : Condition → Condition} {saysSo : Condition → Bool} {type : String} {t : Instant}

/-! ## Overwriting one condition -/

/-- Whether it is written or not, the field says so in the end. -/
theorem writeField_eq (h : saysSo c = true → write c = c) :
    writeField saysSo write c = .ok (!saysSo c) (write c) := by
  rw [writeField, InPlace.get_then]
  cases hsame : saysSo c with
  | true =>
    rw [if_pos rfl, InPlace.return_eq, h hsame]
    rfl
  | false => rfl

theorem transitionTime_of_later (h : existing.since < desired.since) :
    transitionTime desired existing = .ok desired.since existing := by
  rw [transitionTime, InPlace.get_then, if_pos h, InPlace.return_eq]

theorem transitionTime_of_next (h : ¬existing.since < desired.since)
    (ht : existing.since.addMicrosecond = some t) :
    transitionTime desired existing = .ok t existing := by
  rw [transitionTime, InPlace.get_then, if_neg h, ht]
  rfl

theorem transitionTime_of_last (h : ¬existing.since < desired.since)
    (ht : existing.since.addMicrosecond = none) :
    transitionTime desired existing = .error .beyondCalendar existing := by
  rw [transitionTime, InPlace.get_then, if_neg h, ht]
  rfl

/-- Where the status is the same only reason and message are written. -/
theorem overwrite_of_same_status (h : existing.status = desired.status) :
    overwrite desired existing =
      .ok (!decide (existing.reason = desired.reason) ||
          !decide (existing.message = desired.message))
        { existing with reason := desired.reason, message := desired.message } := by
  have hreason : writeField (fun c => c.reason = desired.reason)
      (fun c => { c with reason := desired.reason }) existing =
        .ok (!decide (existing.reason = desired.reason))
          { existing with reason := desired.reason } :=
    writeField_eq fun hsame => by rw [← of_decide_eq_true hsame]
  have hmessage : writeField (fun c => c.message = desired.message)
      (fun c => { c with message := desired.message })
      { existing with reason := desired.reason } =
        .ok (!decide (existing.message = desired.message))
          { existing with reason := desired.reason, message := desired.message } :=
    writeField_eq fun hsame => by rw [← of_decide_eq_true hsame]
  rw [overwrite, InPlace.get_then, if_neg (not_not_intro h), InPlace.then_of_ok hreason,
    InPlace.then_of_ok hmessage, InPlace.return_eq]

/-- Where the status is another one all fields are written, if there is a
time for it. -/
theorem overwrite_of_time (h : existing.status ≠ desired.status)
    (ht : transitionTime desired existing = .ok t existing) :
    overwrite desired existing = .ok true { desired with type := existing.type, since := t } := by
  rw [overwrite, InPlace.get_then, if_pos h, InPlace.then_of_ok ht]
  rfl

/-- **Overwriting is merging** field by field. It tells truly whether it has
changed the condition, and leaves it alone if it breaks off. -/
theorem overwrite_eq (htype : existing.type = desired.type) :
    overwrite desired existing =
      match merge existing desired with
      | some merged => .ok (decide (merged ≠ existing)) merged
      | none => .error .beyondCalendar existing := by
  by_cases hstatus : existing.status = desired.status
  · rw [overwrite_of_same_status hstatus, merge, if_pos hstatus]
    obtain ⟨_, _, reason, message, since⟩ := existing
    obtain ⟨_, _, reason', message', since'⟩ := desired
    cases htype
    cases hstatus
    simp [eq_comm]
  · -- with another status it is another condition, whatever its time
    have hother (t : Instant) : ({ desired with since := t } : Condition) ≠ existing :=
      fun heq => hstatus (heq ▸ rfl)
    have hwritten {t : Instant} (ht : transitionTime desired existing = .ok t existing) :
        overwrite desired existing = .ok (decide ({ desired with since := t } ≠ existing))
          { desired with since := t } := by
      rw [overwrite_of_time hstatus ht, htype, decide_eq_true (hother t)]
    rw [merge, if_neg hstatus]
    by_cases hlater : existing.since < desired.since
    · rw [if_pos hlater, hwritten (transitionTime_of_later hlater)]
    · rw [if_neg hlater]
      cases ht : existing.since.addMicrosecond with
      | some t => exact hwritten (transitionTime_of_next hlater ht)
      | none =>
        rw [overwrite, InPlace.get_then, if_pos hstatus,
          InPlace.then_of_error (transitionTime_of_last hlater ht)]
        rfl

/-- **Setting a condition in place** is setting it, with a word on whether
the list has changed. -/
theorem setInPlace_eq (desired : Condition) (cs : List Condition) :
    setInPlace desired cs =
      match set desired cs with
      | some cs' => .ok (decide (cs' ≠ cs)) cs'
      | none => .error .beyondCalendar cs := by
  induction cs with
  | nil => rfl
  | cons c rest ih =>
    rw [setInPlace, set_cons]
    split
    · rename_i htype
      rw [overwrite_eq htype]
      cases merge c desired with
      | some merged => simp [EditEnd.within]
      | none => rfl
    · rw [ih]
      cases set desired rest with
      | some rest' => simp [EditEnd.within]
      | none => rfl

/-! ## Where a condition is set -/

/-- The first condition of a type has others before it and after it. -/
theorem exists_first (h : type ∈ types cs) : ∃ before existing after,
    cs = before ++ existing :: after ∧ type ∉ types before ∧ existing.type = type := by
  obtain ⟨front, back, hsplit, hfresh⟩ := List.eq_append_cons_of_mem h
  obtain ⟨before, rest, rfl, rfl, hrest⟩ := List.map_eq_append_iff.1 hsplit
  obtain ⟨existing, after, rfl, htype, -⟩ := List.map_eq_cons_iff.1 hrest
  exact ⟨before, existing, after, rfl, hfresh, htype⟩

theorem set_of_fresh (h : desired.type ∉ types cs) : set desired cs = some (cs ++ [desired]) := by
  induction cs with
  | nil => rfl
  | cons c rest ih =>
    obtain ⟨hne, hrest⟩ := not_or.1 fun hor => h (List.mem_cons.2 hor)
    rw [set_cons, if_neg (Ne.symm hne), ih hrest]
    rfl

theorem set_of_first (hfresh : desired.type ∉ types before) (htype : existing.type = desired.type) :
    set desired (before ++ existing :: after) =
      (merge existing desired).map fun merged => before ++ merged :: after := by
  induction before with
  | nil => rw [List.nil_append, set_cons, if_pos htype]; rfl
  | cons c before ih =>
    obtain ⟨hne, hrest⟩ := not_or.1 fun hor => hfresh (List.mem_cons.2 hor)
    rw [List.cons_append, set_cons, if_neg (Ne.symm hne), ih hrest, Option.map_map]
    rfl

theorem remove_cons (type : String) (c : Condition) (cs : List Condition) :
    remove type (c :: cs) = if c.type = type then remove type cs else c :: remove type cs := by
  by_cases htype : c.type = type <;> simp [remove, htype]

theorem remove_place (d : Condition) (cs : List Condition) :
    remove d.type (place d cs) = remove d.type cs := by
  induction cs with
  | nil => rw [place, remove_cons, if_pos rfl]
  | cons c rest ih =>
    rw [place, remove_cons]
    by_cases htype : c.type = d.type
    · rw [if_pos htype, if_pos htype, remove_cons, if_pos rfl]
    · rw [if_neg htype, if_neg htype, remove_cons, if_neg htype, ih]

/-! ## The ends of setting a condition -/

/-- **What setting a condition comes to.** Where there is one of its type,
the first takes what the desired one says, and all before and after it stay
as they are. -/
inductive SetEnds (desired : Condition) :
    List Condition → EditEnd (List Condition) Bool → Prop
  /-- There is none of its type, and it is put at the end as it is. -/
  | added {cs : List Condition} (fresh : desired.type ∉ types cs) :
      SetEnds desired cs (.ok true (cs ++ [desired]))
  /-- The status is the same, and so the time stays. -/
  | kept {before after : List Condition} {existing : Condition}
      (fresh : desired.type ∉ types before) (type : existing.type = desired.type)
      (status : existing.status = desired.status) :
      SetEnds desired (before ++ existing :: after)
        (.ok (existing.reason ≠ desired.reason ∨ existing.message ≠ desired.message)
          (before ++ { desired with since := existing.since } :: after))
  /-- The status is another one, and the desired time is later. -/
  | later {before after : List Condition} {existing : Condition}
      (fresh : desired.type ∉ types before) (type : existing.type = desired.type)
      (status : existing.status ≠ desired.status) (later : existing.since < desired.since) :
      SetEnds desired (before ++ existing :: after) (.ok true (before ++ desired :: after))
  /-- The status is another one, and the desired time is not later: the next
  one after the existing time is. -/
  | next {before after : List Condition} {existing : Condition} {t : Instant}
      (fresh : desired.type ∉ types before) (type : existing.type = desired.type)
      (status : existing.status ≠ desired.status) (stale : ¬existing.since < desired.since)
      (next : existing.since.addMicrosecond = some t) (later : existing.since < t) :
      SetEnds desired (before ++ existing :: after)
        (.ok true (before ++ { desired with since := t } :: after))
  /-- The calendar has no next time. -/
  | beyond {before after : List Condition} {existing : Condition}
      (fresh : desired.type ∉ types before) (type : existing.type = desired.type)
      (status : existing.status ≠ desired.status) (stale : ¬existing.since < desired.since)
      (last : existing.since.addMicrosecond = none) :
      SetEnds desired (before ++ existing :: after)
        (.error .beyondCalendar (before ++ existing :: after))

/-- The list that a set leaves has changed just if the condition in the
middle has. -/
theorem setInPlace_of_first {merged : Condition} (hfresh : desired.type ∉ types before)
    (htype : existing.type = desired.type) (hmerge : merge existing desired = some merged) :
    setInPlace desired (before ++ existing :: after) =
      .ok (decide (merged ≠ existing)) (before ++ merged :: after) := by
  rw [setInPlace_eq, set_of_first hfresh htype, hmerge]
  simp

theorem merge_of_next (hstatus : existing.status ≠ desired.status)
    (hstale : ¬existing.since < desired.since) : merge existing desired =
      existing.since.addMicrosecond.map fun t => { desired with since := t } := by
  rw [merge, if_neg hstatus, if_neg hstale]

/-- What is written with another status is another condition. -/
theorem setInPlace_of_status {merged : Condition} (hfresh : desired.type ∉ types before)
    (htype : existing.type = desired.type) (hstatus : existing.status ≠ desired.status)
    (hmerge : merge existing desired = some merged) :
    setInPlace desired (before ++ existing :: after) = .ok true (before ++ merged :: after) := by
  obtain ⟨t, rfl⟩ := merge_kept hmerge
  have hother : ({ desired with since := t } : Condition) ≠ existing :=
    fun heq => hstatus (heq ▸ rfl)
  rw [setInPlace_of_first hfresh htype hmerge, decide_eq_true hother]

/-- An end that is listed is the one that the set comes to. -/
theorem SetEnds.eq {ends : EditEnd (List Condition) Bool} (h : SetEnds desired cs ends) :
    setInPlace desired cs = ends := by
  cases h with
  | added hfresh =>
    rw [setInPlace_eq, set_of_fresh hfresh]
    simp
  | @kept before after existing hfresh htype hstatus =>
    rw [setInPlace_of_first hfresh htype (if_pos hstatus)]
    have hsame : ({ desired with since := existing.since } : Condition) = existing ↔
        existing.reason = desired.reason ∧ existing.message = desired.message := by
      rw [Condition.mk.injEq]
      exact ⟨fun h => ⟨h.2.2.1.symm, h.2.2.2.1.symm⟩,
        fun h => ⟨htype.symm, hstatus.symm, h.1.symm, h.2.symm, rfl⟩⟩
    rw [decide_eq_decide.2 (not_congr hsame |>.trans not_and_or)]
  | later hfresh htype hstatus hlater =>
    exact setInPlace_of_status hfresh htype hstatus ((if_neg hstatus).trans (if_pos hlater))
  | @next before after existing t hfresh htype hstatus hstale hnext =>
    have hmerge : merge existing desired = some { desired with since := t } := by
      rw [merge_of_next hstatus hstale, hnext, Option.map_some]
    exact setInPlace_of_status hfresh htype hstatus hmerge
  | beyond hfresh htype hstatus hstale hlast =>
    rw [setInPlace_eq, set_of_first hfresh htype, merge_of_next hstatus hstale, hlast]
    rfl

/-- One of the ends that are listed is there. -/
theorem exists_setEnds (desired : Condition) (cs : List Condition) :
    ∃ ends, SetEnds desired cs ends := by
  by_cases hthere : desired.type ∈ types cs
  · obtain ⟨before, existing, after, rfl, hfresh, htype⟩ := exists_first hthere
    by_cases hstatus : existing.status = desired.status
    · exact ⟨_, .kept hfresh htype hstatus⟩
    · by_cases hlater : existing.since < desired.since
      · exact ⟨_, .later hfresh htype hstatus hlater⟩
      · cases hnext : existing.since.addMicrosecond with
        | some t =>
          exact ⟨_, .next hfresh htype hstatus hlater hnext (Instant.lt_addMicrosecond hnext)⟩
        | none => exact ⟨_, .beyond hfresh htype hstatus hlater hnext⟩
  · exact ⟨_, .added hthere⟩

/-- A set that goes well is one of the list, and one that breaks off leaves
the list as it was. -/
theorem setInPlace_cases (desired : Condition) (cs : List Condition) :
    (∃ cs', set desired cs = some cs' ∧
      setInPlace desired cs = .ok (decide (cs' ≠ cs)) cs') ∨
    (set desired cs = none ∧ setInPlace desired cs = .error .beyondCalendar cs) := by
  rw [setInPlace_eq]
  cases set desired cs with
  | some cs' => exact .inl ⟨cs', rfl, rfl⟩
  | none => exact .inr ⟨rfl, rfl⟩

/-- **Setting a condition is exact**, whatever the list holds and however
often its types come. It comes to the one of its ends that applies
(`SetEnds`); it says that it has changed the list just if it has, and leaves
the list as it was if it breaks off. Doing it again does nothing more, and
to remove the type afterwards is to remove it at once. It is what all
updates of conditions do. -/
theorem setting_is_exact (desired : Condition) (cs : List Condition) :
    (∀ ends, setInPlace desired cs = ends ↔ SetEnds desired cs ends) ∧
    (∀ changed cs', setInPlace desired cs = .ok changed cs' → (changed = true ↔ cs' ≠ cs)) ∧
    (∀ fault cs', setInPlace desired cs = .error fault cs' → cs' = cs) ∧
    (∀ changed cs', setInPlace desired cs = .ok changed cs' →
      setInPlace desired cs' = .ok false cs') ∧
    EditEnd.left (removeInPlace desired.type (EditEnd.left (setInPlace desired cs))) =
      EditEnd.left (removeInPlace desired.type cs) ∧
    ∀ cs', set desired cs = some cs' ↔ ∃ changed, setInPlace desired cs = .ok changed cs' := by
  refine ⟨fun ends => ⟨fun h => ?_, SetEnds.eq⟩, ?_⟩
  · obtain ⟨listed, hlisted⟩ := exists_setEnds desired cs
    rwa [← h, hlisted.eq]
  obtain ⟨after, hset, heq⟩ | ⟨hset, heq⟩ := setInPlace_cases desired cs
  · rw [heq, hset]
    have hagain : set desired after = some after := set_of_shows (shows_set hset)
    refine ⟨?_, nofun, ?_, ?_, fun cs' => ?_⟩
    · rintro changed cs' ⟨⟩
      exact decide_eq_true_iff
    · rintro changed cs' ⟨⟩
      rw [setInPlace_eq, hagain]
      simp
    · obtain ⟨t, rfl⟩ := set_eq_place hset
      exact remove_place { desired with since := t } cs
    · exact ⟨fun h => ⟨_, congrArg _ (Option.some.inj h)⟩, fun ⟨_, h⟩ => by cases h; rfl⟩
  · rw [heq, hset]
    refine ⟨nofun, ?_, nofun, rfl, fun cs' => ⟨nofun, fun ⟨_, h⟩ => nomatch h⟩⟩
    rintro fault cs' ⟨⟩
    rfl

namespace Repeated

/-- A condition since the epoch. -/
def told (type : String) (status : ConditionStatus) : Condition :=
  ⟨type, status, "Checked", "", Instant.epoch⟩

/-- A list with two conditions of one type. -/
def list : List Condition := [told "Empty" .holds, told "Ready" .holds, told "Ready" .unknown]

/-- The list with the first of the two set to another status. -/
def changed (since : Instant) : List Condition :=
  [told "Empty" .holds, { told "Ready" .fails with since := since }, told "Ready" .unknown]

end Repeated

open Repeated in
/-- Only the first of two conditions of a type is set, and at a later time
than it had although the desired one is the same. -/
theorem setting_is_exact_repeated : ∃ later, Instant.epoch < later ∧
    setInPlace (told "Ready" .fails) list = .ok true (changed later) ∧
    setInPlace (told "Ready" .fails) (changed later) = .ok false (changed later) := by
  obtain ⟨later, hnext⟩ := Option.isSome_iff_exists.1
    (show Instant.epoch.addMicrosecond.isSome = true by decide)
  have hlater := Instant.lt_addMicrosecond hnext
  obtain ⟨hends, -, -, hagain, -⟩ := setting_is_exact (told "Ready" .fails) list
  have hend : SetEnds (told "Ready" .fails) list (.ok true (changed later)) :=
    @SetEnds.next _ [told "Empty" .holds] [told "Ready" .unknown] (told "Ready" .holds) later
      (by decide) rfl (by decide) (by decide) hnext hlater
  have hset := (hends _).2 hend
  exact ⟨later, hlater, hset, hagain _ _ hset⟩

end Condition

end ClusterFleet
