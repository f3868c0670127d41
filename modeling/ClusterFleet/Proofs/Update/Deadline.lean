import ClusterFleet.Proofs.Hub.Timeline
import ClusterFleet.Proofs.Update.Attempt

/-!
# Status updates — the deadline

An update with a deadline is the update without one, with a limit to all its
waits (`bounded_ofJob`), as long as its delays take time and nothing is
drawn for them (`RetryPolicy.Paces`). So it does the same up to the first
wait that would end too late, and then gives up. `deadline_bounds_retries`
says so for results, requests and store, and that no attempt but the first
begins after the deadline, rounded up.
-/

namespace ClusterFleet

/-- A policy keeps pace: it draws nothing, and every delay that it may come
to takes some time. -/
structure RetryPolicy.Paces (policy : RetryPolicy) : Prop where
  steady : policy.hasJitter = false
  lasts : ∀ attempt, 1 ≤ attempt → attempt < policy.attempts →
    policy.baseDelay attempt ≠ Span.zero

theorem RetryPolicy.Paces.delay {policy : RetryPolicy} (paces : policy.Paces) {attempt : ℕ}
    (positive : 1 ≤ attempt) (more : attempt < policy.attempts) (drawn : Float) :
    policy.delay attempt drawn ≠ Span.zero := by
  have hsteady : ¬policy.hasJitter = true := by simp [paces.steady]
  have hdelay : policy.delay attempt drawn = policy.baseDelay attempt := if_neg hsteady
  rw [hdelay]
  exact paces.lasts attempt positive more

/-- The job without a deadline. -/
def UpdateJob.untimed (job : UpdateJob) : UpdateJob := { job with deadline := none }

/-- The job with a deadline. -/
def UpdateJob.timed (job : UpdateJob) (limit : Moment) : UpdateJob :=
  { job with deadline := some limit }

namespace StatusUpdate

open Hub MemoryStore Program Position

variable {job : UpdateJob} {limit : Moment} {attempt left : ℕ}

/-! ## A limit to all waits -/

section Bounded

variable {late : Update}

/-- With and without a deadline the update goes on alike after a read, up to
what follows a loss. -/
theorem bounded_ofRead
    (lost : Bounded limit late (afterLoss job.untimed attempt left)
      (afterLoss (job.timed limit) attempt left)) (found : Except StoreError (Option Resource)) :
    Bounded limit late ((ofRead job attempt left found).program job.untimed)
      ((ofRead job attempt left found).program (job.timed limit)) := by
  have hwrite (written : Except StoreError Resource) :
      Bounded limit late (afterWrite job.untimed attempt left written)
        (afterWrite (job.timed limit) attempt left written) := by
    rw [← program_ofWrite, ← program_ofWrite]
    obtain ⟨object, hpos⟩ | hpos | ⟨result, hpos⟩ := ofWrite_cases attempt left written
    · rw [hpos]
      exact .call _ fun _ => .done _
    · rw [hpos]
      exact .call _ fun _ => lost
    · rw [hpos]
      exact .done _
  obtain ⟨result, hpos⟩ | hpos | ⟨read, conditions, hpos⟩ := ofRead_cases job attempt left found
  · rw [hpos]
    exact .done _
  · rw [hpos]
    exact .abort
  · rw [hpos]
    exact .call _ hwrite

/-- **The deadline limits the waits** between the attempts, and nothing
else. -/
theorem bounded_attemptsFrom (paces : job.policy.Paces) (positive : 1 ≤ attempt)
    (all : attempt + left = job.policy.attempts) :
    Bounded limit (endLate job) (attemptsFrom job.untimed attempt left)
      (attemptsFrom (job.timed limit) attempt left) := by
  induction left generalizing attempt with
  | zero =>
    rw [attemptsFrom_eq, attemptsFrom_eq]
    exact .call _ (bounded_ofRead (.done _))
  | succ left ih =>
    rw [attemptsFrom_eq, attemptsFrom_eq]
    refine .call _ (bounded_ofRead (.call _ fun drawn => ?_))
    have hmore : attempt < job.policy.attempts := by omega
    -- the draw is the same in both, and only the sleep has the limit
    exact .sleep (paces.delay positive hmore drawn) (ih (by omega) (by omega)) rfl

theorem bounded_ofJob (paces : job.policy.Paces) :
    Bounded limit (endLate job) (ofJob job.untimed) (ofJob (job.timed limit)) :=
  bounded_attemptsFrom paces le_rfl (one_add_left job.policy)

end Bounded

/-! ## When attempts begin -/

/-- When the attempts of an update begin: each begins with its read. -/
def attemptStarts : List Mark → List Moment
  | [] => []
  | .asked (.get _ _) moment :: line => moment :: attemptStarts line
  | _ :: line => attemptStarts line

section Starts

variable {σ : Type} [Authority σ]

/-- What follows a write begins no attempt before a loss. -/
theorem attemptStarts_afterWrite (job : UpdateJob) (attempt left : ℕ)
    (written : Except StoreError Resource) (h : Hub σ) :
    attemptStarts (timeline (afterWrite job attempt left written) h) = [] ∨
      ∃ mid : Hub σ, mid.clock = h.clock ∧
        attemptStarts (timeline (afterWrite job attempt left written) h) =
          attemptStarts (timeline (afterLoss job attempt left) mid) := by
  rw [← program_ofWrite]
  obtain ⟨object, hpos⟩ | hpos | ⟨result, hpos⟩ := ofWrite_cases attempt left written
  · rw [hpos]
    exact .inl rfl
  · rw [hpos]
    exact .inr ⟨(h.answer (.count .updateConflicts)).2, rfl, rfl⟩
  · rw [hpos]
    exact .inl rfl

/-- Nor does what follows a read. -/
theorem attemptStarts_ofRead (job : UpdateJob) (attempt left : ℕ)
    (found : Except StoreError (Option Resource)) (h : Hub σ) :
    attemptStarts (timeline ((ofRead job attempt left found).program job) h) = [] ∨
      ∃ mid : Hub σ, mid.clock = h.clock ∧
        attemptStarts (timeline ((ofRead job attempt left found).program job) h) =
          attemptStarts (timeline (afterLoss job attempt left) mid) := by
  obtain ⟨result, hpos⟩ | hpos | ⟨stored, conditions, hpos⟩ := ofRead_cases job attempt left found
  · rw [hpos]
    exact .inl rfl
  · rw [hpos]
    exact .inl rfl
  · rw [hpos]
    exact attemptStarts_afterWrite job attempt left _ _

/-- **An attempt begins now**, and all others of the update come after its
loss. -/
theorem attemptStarts_attemptsFrom (job : UpdateJob) (attempt left : ℕ) (h : Hub σ) :
    ∃ later, attemptStarts (timeline (attemptsFrom job attempt left) h) = h.clock :: later ∧
      (later = [] ∨ ∃ mid : Hub σ, mid.clock = h.clock ∧
        later = attemptStarts (timeline (afterLoss job attempt left) mid)) := by
  rw [attemptsFrom_eq]
  exact ⟨_, rfl, attemptStarts_ofRead job attempt left _ _⟩

/-- **No attempt after a loss begins late**: the wait before it was not cut,
so it ended in time. -/
theorem attemptStarts_afterLoss {h : Hub σ} (paces : job.policy.Paces) (whole : h.clock.IsWhole)
    (positive : 1 ≤ attempt) (all : attempt + left = job.policy.attempts) :
    ∀ t ∈ attemptStarts (timeline (afterLoss (job.timed limit) attempt left) h),
      t.nanos ≤ limit.roundUp.nanos := by
  induction left generalizing attempt h with
  | zero => exact nofun
  | succ left ih =>
    intro t ht
    let drew := h.answer (.draw job.policy.jitter)
    have hlasts : job.policy.delay attempt drew.1 ≠ Span.zero :=
      paces.delay positive (by omega) drew.1
    let waited := wait h.clock (job.policy.delay attempt drew.1) (some limit)
    let woken : Hub σ := { h with clock := waited.2 }
    change t ∈ attemptStarts (timeline (if waited.1
      then attemptsFrom (job.timed limit) (attempt + 1) left
      else endLate (job.timed limit)) woken) at ht
    cases hcut : waited.1 with
    | false =>
      -- a wait that was cut begins no attempt
      rw [hcut] at ht
      cases ht
    | true =>
      rw [hcut, if_pos rfl] at ht
      have hintime : woken.clock.nanos ≤ limit.roundUp.nanos := wait_uncut whole hlasts hcut
      have hwhole : woken.clock.IsWhole := isWhole_wait whole _
      obtain ⟨later, hstarts, hlater⟩ :=
        attemptStarts_attemptsFrom (job.timed limit) (attempt + 1) left woken
      rw [hstarts] at ht
      rcases List.mem_cons.mp ht with rfl | ht
      · exact hintime
      · obtain rfl | ⟨mid, hclock, rfl⟩ := hlater
        · cases ht
        · rw [← hclock] at hwhole
          exact ih hwhole (by omega) (by omega) t ht

end Starts

/-! ## The deadline -/

/-- **The deadline bounds the retries**, where delays take time and nothing
is drawn for them. If every wait of the update without a deadline ends by the
deadline, rounded up, both do the same. Otherwise the update with the
deadline does the same up to the first wait that does not, gives up there,
and leaves every object as it was. No attempt but the first begins after the
deadline, rounded up. The clock shows whole milliseconds from the start, and
does so again when the update has ended. -/
theorem deadline_bounds_retries {h : Hub MemoryStore} (sound : h.store.Sound)
    (whole : h.clock.IsWhole) (paces : job.policy.Paces) (limit : Moment) :
    let free := timeline (ofJob job.untimed) h
    let bound := timeline (ofJob (job.timed limit)) h
    let ended := runAlone (ofJob (job.timed limit)) h
    ((∀ t, .woke t ∈ free → t.nanos ≤ limit.roundUp.nanos) →
      ended = runAlone (ofJob job.untimed) h ∧ bound = free) ∧
    ((∃ t, .woke t ∈ free ∧ limit.roundUp.nanos < t.nanos) →
      ended.1 = .result (.error (.deadlineExceeded job.kind job.key)) ∧
      (∃ cut, bound = free.takeWhile (fun m => !m.isLate limit) ++
        [.woke cut, .asked (.count .updateDeadlines) cut]) ∧
      Unwritten h.store ended.2.store) ∧
    (∃ later, attemptStarts bound = h.clock :: later ∧
      ∀ t ∈ later, t.nanos ≤ limit.roundUp.nanos) ∧
    ended.2.clock.IsWhole := by
  intro free bound ended
  -- the two programs differ in the limit of their sleeps only
  have hbounded : Bounded limit (endLate job) (ofJob job.untimed) (ofJob (job.timed limit)) :=
    bounded_ofJob paces
  refine ⟨fun hintime => ?_, fun hlate => ?_, ?_, isWhole_runAlone _ whole⟩
  · refine hbounded.same whole fun m hm => Bool.eq_false_iff.mpr fun hlate => ?_
    obtain ⟨t, ht, hafter⟩ := Mark.exists_isLate_iff.mp ⟨m, hm, hlate⟩
    have hbefore := hintime t ht
    omega
  · obtain ⟨mid, hrun, hline⟩ := hbounded.cut whole (Mark.exists_isLate_iff.mpr hlate)
    have hending : ended.1 = .result (.error (.deadlineExceeded job.kind job.key)) :=
      congrArg Prod.fst hrun
    have hwritten := ofJob_writtenIf sound (runs_timeline (ofJob (job.timed limit)) h)
    rw [hending] at hwritten
    exact ⟨hending, ⟨mid.clock, hline⟩, hwritten⟩
  · obtain ⟨later, hstarts, hlater⟩ :=
      attemptStarts_attemptsFrom (job.timed limit) 1 (job.policy.attempts - 1) h
    refine ⟨later, hstarts, ?_⟩
    obtain rfl | ⟨mid, hclock, rfl⟩ := hlater
    · exact nofun
    · rw [← hclock] at whole
      exact attemptStarts_afterLoss paces whole le_rfl (one_add_left job.policy)

/-- Delays of 10 and of 50 milliseconds between three attempts. -/
def paced : RetryPolicy :=
  ⟨3, Span.ofMillis 10, 5.0, 0.0, Span.ofSecs 10⟩

theorem paces_paced : paced.Paces := by
  refine ⟨by decide +kernel, fun attempt hpos hmore => ?_⟩
  change attempt < 3 at hmore
  obtain rfl | rfl : attempt = 1 ∨ attempt = 2 := by omega
  · decide +kernel
  · decide +kernel

/-- A store with a member and three planted conflicts. -/
def contested : MemoryStore :=
  (MemoryStore.empty.put .member ⟨⟨"m", none, none, none, [], none⟩, []⟩).2.plantConflicts 3

/-- The update that says of the member that it is ready, among conflicts. -/
def makeReadyAtPace : UpdateJob :=
  ⟨.member, .cluster "m", [Mutation.set ⟨"Ready", .holds, "Joined", "", Instant.epoch⟩], paced,
    none⟩

/-- A deadline after 30 milliseconds cuts the second wait: the third attempt
is never made. -/
theorem deadline_bounds_retries_second_wait :
    let h := Hub.start contested 1 Instant.epoch
    let bound := ofJob (makeReadyAtPace.timed (Moment.ofTick 30))
    (runAlone bound h).1 = .result (.error (.deadlineExceeded .member (.cluster "m"))) ∧
      Unwritten contested (runAlone bound h).2.store ∧
      attemptStarts (timeline bound h) = [Moment.ofTick 0, Moment.ofTick 10] := by
  intro h bound
  have hput := sound_empty.put .member ⟨⟨"m", none, none, none, [], none⟩, []⟩
  have hsound : h.store.Sound := ⟨hput.written, hput.nodup⟩
  have hlate : (timeline (ofJob makeReadyAtPace.untimed) h).any
      (fun m => m.isLate (Moment.ofTick 30)) = true := by decide +kernel
  obtain ⟨-, hcut, -⟩ :=
    @deadline_bounds_retries makeReadyAtPace h hsound Moment.isWhole_start paces_paced
      (Moment.ofTick 30)
  obtain ⟨hending, -, hunwritten⟩ := hcut (Mark.exists_isLate_iff.mp (List.any_eq_true.mp hlate))
  exact ⟨hending, hunwritten, by decide +kernel⟩

end StatusUpdate

end ClusterFleet
