import ClusterFleet.Proofs.Hub.Step
import Mathlib.Data.List.TakeWhile

/-!
# Hub — the timeline of a program alone

What a program that runs alone asks and when, and when its waits end
(`Hub.timeline`). A clock that only waits have moved shows whole
milliseconds (`Moment.IsWhole`), and a wait of some length moves it on.

A program may be given a deadline for all its waits (`Program.Bounded`).
Up to the first wait that would end after the deadline, rounded up, nothing
changes; that wait is cut, and what the program does about it is all that
still happens (`Bounded.same`, `Bounded.cut`).
-/

namespace ClusterFleet

/-! ## Whole milliseconds -/

namespace Moment

/-- The first whole millisecond that is not before a moment. -/
def roundUp (t : Moment) : Moment := ofTick t.tick

/-- The clock shows a whole millisecond. -/
def IsWhole (t : Moment) : Prop := t.roundUp = t

@[simp] theorem tick_ofTick (n : ℕ) : (ofTick n).tick = n := by
  change (1000000 - 1 + n * 1000000) / 1000000 = n
  omega

theorem isWhole_ofTick (n : ℕ) : (ofTick n).IsWhole := by
  unfold IsWhole roundUp
  rw [tick_ofTick]

/-- The clock starts at a whole millisecond. -/
theorem isWhole_start : start.IsWhole := isWhole_ofTick 0

theorem ofTick_le_roundUp_iff {n : ℕ} {limit : Moment} :
    (ofTick n).nanos ≤ limit.roundUp.nanos ↔ n ≤ limit.tick := by
  change n * 1000000 ≤ limit.tick * 1000000 ↔ _
  omega

/-- After a span of some length it is later. -/
theorem lt_after {delay : Span} (lasts : delay ≠ Span.zero) (t : Moment) :
    t.nanos < (t.after delay).nanos := by
  have hpos : 0 < delay.nanos := by
    refine Nat.pos_of_ne_zero fun hzero => lasts ?_
    cases delay
    exact congrArg Span.mk hzero
  have hfar : 0 < farFuture.nanos := by decide
  unfold after after?
  split
  · rename_i later heq
    split at heq
    · cases heq
      change t.nanos < t.nanos + delay.nanos
      omega
    · cases heq
  · change t.nanos < t.nanos + farFuture.nanos
    omega

/-- So a timer that is set for then goes off at a later tick. -/
theorem tick_lt_after {t : Moment} {delay : Span} (whole : t.IsWhole) (lasts : delay ≠ Span.zero) :
    t.tick < (t.after delay).tick := by
  have hlater := lt_after lasts t
  have hwhole : t.tick * 1000000 = t.nanos := congrArg Moment.nanos whole
  change _ < (1000000 - 1 + (t.after delay).nanos) / 1000000
  omega

end Moment

/-! ## Timelines -/

/-- Something that happens in a run. -/
inductive Mark where
  | asked (call : Call) (moment : Moment)
  /-- A wait ends. -/
  | woke (moment : Moment)

/-- The end of a wait comes after a limit, rounded up. -/
def Mark.isLate (limit : Moment) : Mark → Bool
  | asked .. => false
  | woke moment => limit.roundUp.nanos < moment.nanos

theorem Mark.isLate_woke {limit moment : Moment} :
    (woke moment).isLate limit = true ↔ limit.roundUp.nanos < moment.nanos :=
  decide_eq_true_iff

/-- Only waits end late. -/
theorem Mark.exists_isLate_iff {limit : Moment} {line : List Mark} :
    (∃ m ∈ line, m.isLate limit = true) ↔
      ∃ t, .woke t ∈ line ∧ limit.roundUp.nanos < t.nanos := by
  constructor
  · rintro ⟨m, hm, hlate⟩
    cases m with
    | asked => cases hlate
    | woke t => exact ⟨t, hm, isLate_woke.mp hlate⟩
  · rintro ⟨t, ht, hlate⟩
    exact ⟨_, ht, isLate_woke.mpr hlate⟩

/-- What is asked. -/
def Mark.call? : Mark → Option Call
  | asked c _ => some c
  | woke _ => none

namespace Hub

variable {σ α : Type} [Authority σ]

/-- What happens in a run of a program alone. -/
def timeline : Program α → Hub σ → List Mark
  | .done _, _ => []
  | .abort, _ => []
  | .call c next, h => .asked c h.clock :: timeline (next (h.answer c).1) (h.answer c).2
  | .sleep delay deadline next, h =>
    let waited := wait h.clock delay deadline
    .woke waited.2 :: timeline (next waited.1) { h with clock := waited.2 }
  | .take next, h =>
    match h.queue.pop with
    | (.key key, queue) => timeline (next (some key)) { h with queue := queue }
    | (.closed, _) => timeline (next none) h
    | (.wait, _) => []

/-- **The timeline is that of the run**: it has the calls that are made. -/
theorem runs_timeline (p : Program α) (h : Hub σ) :
    Runs p h ((timeline p h).filterMap Mark.call?) (runAlone p h).1 (runAlone p h).2 := by
  induction p generalizing h with
  | done a => exact .done a h
  | abort => exact .abort h
  | call c next ih => exact .step (.call (.usual c h)) (ih _ _)
  | sleep delay deadline next ih => exact .step (Runs.step_wait delay deadline next h) (ih _ _)
  | take next ih =>
    rw [timeline, runAlone]
    cases hpop : h.queue.pop with
    | mk delivery queue =>
      cases delivery with
      | key key => exact .step (.take hpop) (ih _ _)
      | closed => exact .step (.takeNone hpop) (ih _ _)
      | wait => exact .stuck hpop

/-- No call takes time. -/
@[simp] theorem clock_answer (c : Call) (h : Hub σ) : (h.answer c).2.clock = h.clock := by
  cases c with
  | addAfter key delay =>
    change (h.addAfter key delay).clock = h.clock
    unfold addAfter
    split <;> rfl
  | _ => rfl

theorem isWhole_answer {h : Hub σ} (whole : h.clock.IsWhole) (c : Call) :
    (h.answer c).2.clock.IsWhole := by
  rw [clock_answer]
  exact whole

section Wait

variable {clock limit : Moment} {delay : Span}

/-- **A wait of some length** ends at its own tick. -/
theorem wait_free (whole : clock.IsWhole) (lasts : delay ≠ Span.zero) :
    wait clock delay none = (true, Moment.ofTick (clock.after delay).tick) := by
  have hlater := Moment.tick_lt_after whole lasts
  simp only [wait]
  rw [if_neg (Nat.not_le_of_lt hlater)]

/-- A deadline that is not over by then makes no difference. -/
theorem wait_in_time (whole : clock.IsWhole) (lasts : delay ≠ Span.zero)
    (intime : (clock.after delay).tick ≤ limit.tick) :
    wait clock delay (some limit) = (true, Moment.ofTick (clock.after delay).tick) := by
  have hlater := Moment.tick_lt_after whole lasts
  simp only [wait]
  rw [if_neg (Nat.not_le_of_lt hlater), if_pos intime]

/-- A deadline that comes before cuts it. -/
theorem wait_cut (whole : clock.IsWhole) (lasts : delay ≠ Span.zero)
    (late : limit.tick < (clock.after delay).tick) :
    (wait clock delay (some limit)).1 = false := by
  have hlater := Moment.tick_lt_after whole lasts
  simp only [wait]
  rw [if_neg (Nat.not_le_of_lt hlater), if_neg (Nat.not_le_of_lt late)]

/-- A wait that is not cut ends in time. -/
theorem wait_uncut (whole : clock.IsWhole) (lasts : delay ≠ Span.zero)
    (uncut : (wait clock delay (some limit)).1 = true) :
    (wait clock delay (some limit)).2.nanos ≤ limit.roundUp.nanos := by
  by_cases htick : (clock.after delay).tick ≤ limit.tick
  · rw [wait_in_time whole lasts htick]
    exact Moment.ofTick_le_roundUp_iff.mpr htick
  · have hcut := wait_cut whole lasts (Nat.lt_of_not_le htick)
    rw [hcut] at uncut
    cases uncut

/-- Waiting leaves the clock at a whole millisecond. -/
theorem isWhole_wait (whole : clock.IsWhole) (deadline : Option Moment) :
    (wait clock delay deadline).2.IsWhole := by
  cases deadline with
  | none =>
    simp only [wait]
    split
    · exact whole
    · exact Moment.isWhole_ofTick _
  | some limit =>
    simp only [wait]
    split
    · exact whole
    · split
      · exact Moment.isWhole_ofTick _
      · dsimp only
        split
        · exact whole
        · exact Moment.isWhole_ofTick _

end Wait

section Sleep

variable {h : Hub σ} {delay : Span} {limit : Moment}

/-- The hub after a wait that nothing has cut. -/
def wokenAfter (delay : Span) (h : Hub σ) : Hub σ :=
  { h with clock := Moment.ofTick (h.clock.after delay).tick }

omit [Authority σ] in
theorem isWhole_wokenAfter (delay : Span) (h : Hub σ) : (h.wokenAfter delay).clock.IsWhole :=
  Moment.isWhole_ofTick _

omit [Authority σ] in
/-- The end of a wait is late if its tick is. -/
theorem isLate_wokenAfter :
    (Mark.woke (h.wokenAfter delay).clock).isLate limit = true ↔
      limit.tick < (h.clock.after delay).tick := by
  have hbound : _ ↔ (h.clock.after delay).tick ≤ limit.tick := Moment.ofTick_le_roundUp_iff
  rw [Mark.isLate_woke, ← Nat.not_le, ← Nat.not_le]
  exact not_congr hbound

/-- A program sleeps without a deadline. -/
theorem sleep_free (whole : h.clock.IsWhole) (lasts : delay ≠ Span.zero)
    (next : Bool → Program α) :
    runAlone (.sleep delay none next) h = runAlone (next true) (h.wokenAfter delay) ∧
      timeline (.sleep delay none next) h =
        .woke (h.wokenAfter delay).clock :: timeline (next true) (h.wokenAfter delay) := by
  rw [runAlone, timeline, wait_free whole lasts]
  exact ⟨rfl, rfl⟩

/-- A deadline makes no difference to a sleep that is not late. -/
theorem sleep_in_time (whole : h.clock.IsWhole) (lasts : delay ≠ Span.zero)
    (intime : (Mark.woke (h.wokenAfter delay).clock).isLate limit = false)
    (next : Bool → Program α) :
    runAlone (.sleep delay (some limit) next) h = runAlone (next true) (h.wokenAfter delay) ∧
      timeline (.sleep delay (some limit) next) h =
        .woke (h.wokenAfter delay).clock :: timeline (next true) (h.wokenAfter delay) := by
  rw [← Bool.not_eq_true, isLate_wokenAfter, Nat.not_lt] at intime
  rw [runAlone, timeline, wait_in_time whole lasts intime]
  exact ⟨rfl, rfl⟩

/-- It cuts one that is. -/
theorem sleep_cut (whole : h.clock.IsWhole) (lasts : delay ≠ Span.zero)
    (late : (Mark.woke (h.wokenAfter delay).clock).isLate limit = true)
    (next : Bool → Program α) :
    ∃ mid : Hub σ,
      runAlone (.sleep delay (some limit) next) h = runAlone (next false) mid ∧
        timeline (.sleep delay (some limit) next) h =
          .woke mid.clock :: timeline (next false) mid := by
  have hcut := wait_cut whole lasts (isLate_wokenAfter.mp late)
  refine ⟨{ h with clock := (wait h.clock delay (some limit)).2 }, ?_, ?_⟩
  · rw [runAlone, hcut]
  · rw [timeline, hcut]

end Sleep

/-- **The clock stays at whole milliseconds**: only waits move it. -/
theorem isWhole_runAlone (p : Program α) {h : Hub σ} (whole : h.clock.IsWhole) :
    (runAlone p h).2.clock.IsWhole := by
  induction p generalizing h with
  | done a => exact whole
  | abort => exact whole
  | call c next ih =>
    exact ih _ (isWhole_answer whole c)
  | sleep delay deadline next ih =>
    let woken : Hub σ := { h with clock := (wait h.clock delay deadline).2 }
    have hwoken : woken.clock.IsWhole := isWhole_wait whole deadline
    exact ih _ hwoken
  | take next ih =>
    rw [runAlone]
    split
    · exact ih _ whole
    · exact ih _ whole
    · exact whole

end Hub

/-! ## Deadlines -/

/-- **A program under a deadline**: the second program is the first one with
a limit to all its waits, which have some length. When one is cut it does
what is done when it is late. -/
inductive Program.Bounded {α : Type} (limit : Moment) (late : Program α) :
    Program α → Program α → Prop
  | done (a : α) : Bounded limit late (.done a) (.done a)
  | abort : Bounded limit late .abort .abort
  | call (c : Call) {next next' : c.Answer → Program α}
      (rest : ∀ a, Bounded limit late (next a) (next' a)) :
      Bounded limit late (.call c next) (.call c next')
  | sleep {delay : Span} {next next' : Bool → Program α} (lasts : delay ≠ Span.zero)
      (rest : Bounded limit late (next true) (next' true)) (cut : next' false = late) :
      Bounded limit late (.sleep delay none next) (.sleep delay (some limit) next')

namespace Program.Bounded

open Hub

variable {σ α : Type} [Authority σ] {limit : Moment} {late p q : Program α} {h : Hub σ}

/-- **In time nothing changes.** -/
theorem same (bounded : Bounded limit late p q) (whole : h.clock.IsWhole)
    (intime : ∀ m ∈ timeline p h, m.isLate limit = false) :
    runAlone q h = runAlone p h ∧ timeline q h = timeline p h := by
  induction bounded generalizing h with
  | done a => exact ⟨rfl, rfl⟩
  | abort => exact ⟨rfl, rfl⟩
  | call c rest ih =>
    obtain ⟨hrun, hline⟩ :=
      ih _ (isWhole_answer whole c) fun m hm => intime m (List.mem_cons_of_mem _ hm)
    exact ⟨hrun, congrArg _ hline⟩
  | @sleep delay next next' lasts rest cut ih =>
    -- both wake at the same moment, with the same hub
    obtain ⟨hfree, hline⟩ := sleep_free whole lasts next
    rw [hline] at intime
    obtain ⟨hrun', hline'⟩ := sleep_in_time whole lasts (intime _ List.mem_cons_self) next'
    obtain ⟨hrest, hlater⟩ :=
      ih (isWhole_wokenAfter delay h) fun m hm => intime m (List.mem_cons_of_mem _ hm)
    rw [hrun', hrest, hfree, hline', hlater, hline]
    exact ⟨rfl, rfl⟩

/-- **The first wait that is late is cut.** Up to there the timeline is as
without the deadline, and after it the program does what is done when it is
late. -/
theorem cut (bounded : Bounded limit late p q) (whole : h.clock.IsWhole)
    (overdue : ∃ m ∈ timeline p h, m.isLate limit = true) :
    ∃ mid : Hub σ, runAlone q h = runAlone late mid ∧
      timeline q h = (timeline p h).takeWhile (fun m => !m.isLate limit) ++
        .woke mid.clock :: timeline late mid := by
  induction bounded generalizing h with
  | done a =>
    obtain ⟨m, hm, -⟩ := overdue
    cases hm
  | abort =>
    obtain ⟨m, hm, -⟩ := overdue
    cases hm
  | @call c next next' rest ih =>
    obtain ⟨m, hm, hlate⟩ := overdue
    have hlater : m ∈ timeline (next (h.answer c).1) (h.answer c).2 := by
      rcases List.mem_cons.mp hm with rfl | hm
      · cases hlate
      · exact hm
    obtain ⟨mid, hrun, hline⟩ := ih _ (isWhole_answer whole c) ⟨m, hlater, hlate⟩
    refine ⟨mid, hrun, ?_⟩
    rw [timeline, hline, timeline, List.takeWhile_cons_of_pos rfl, List.cons_append]
  | @sleep delay next next' lasts rest cut ih =>
    obtain ⟨-, hline⟩ := sleep_free whole lasts next
    rw [hline] at overdue ⊢
    cases hlate : (Mark.woke (h.wokenAfter delay).clock).isLate limit with
    | false =>
      -- this wait is in time, so a later one is not
      obtain ⟨m, hm, hlate'⟩ := overdue
      rcases List.mem_cons.mp hm with rfl | hm
      · cases hlate.symm.trans hlate'
      obtain ⟨hrun', hline'⟩ := sleep_in_time whole lasts hlate next'
      obtain ⟨mid, hrun, hlater⟩ := ih (isWhole_wokenAfter delay h) ⟨m, hm, hlate'⟩
      refine ⟨mid, hrun'.trans hrun, ?_⟩
      rw [hline', hlater, List.takeWhile_cons_of_pos (by simp [hlate]), List.cons_append]
    | true =>
      obtain ⟨mid, hrun', hline'⟩ := sleep_cut whole lasts hlate next'
      refine ⟨mid, by rw [hrun', cut], ?_⟩
      rw [hline', cut, List.takeWhile_cons_of_neg (by simp [hlate]), List.nil_append]

end Program.Bounded

end ClusterFleet
