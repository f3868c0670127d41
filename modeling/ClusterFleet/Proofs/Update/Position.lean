import ClusterFleet.Hub.StatusUpdate
import ClusterFleet.Proofs.Hub.Step

/-!
# Status updates — the positions of an update

An update that is under way has come to one of a few positions
(`Position`), and each position has its program. A step from a position
leads to a position (`Moves.of_step`), so an update among others is
followed by its position instead of what is left of its program. Only two
positions touch the store: before the read, and before the write. A run from
a loss on ends the update or makes another attempt, whatever the store is
(`afterLoss_ends`).
-/

namespace ClusterFleet

/-- What an update is asked to do. -/
structure UpdateJob where
  kind : Kind
  key : Key
  /-- The mutations, in the order in which they are applied. -/
  mutations : List Mutation
  /-- How lost writes are repeated. -/
  policy : RetryPolicy
  /-- When to give up, if ever. -/
  deadline : Option Moment

namespace StatusUpdate

open Program

/-- The program of an update. -/
abbrev Update := Program (Except StoreError UpdateResult)

/-- The update of a job. -/
def ofJob (job : UpdateJob) : Update :=
  run job.kind job.key job.mutations job.policy job.deadline

/-- Where an update under way has come to. A number of attempt goes with
how many may follow it. -/
inductive Position where
  | reading (attempt left : Nat)
  /-- It is about to write these conditions on what it read. -/
  | writing (attempt left : Nat) (read : Resource) (conditions : List Condition)
  /-- It has written, and is about to count it. -/
  | wrote (written : Resource)
  /-- It has lost, and is about to count it. -/
  | lost (attempt left : Nat)
  /-- It is about to draw a delay. -/
  | drawing (attempt left : Nat)
  | sleeping (attempt left : Nat) (drawn : Float)
  /-- It has met the deadline, and is about to count it. -/
  | late
  | ended (result : Except StoreError UpdateResult)
  | broken

namespace Position

/-- The attempts from the given one on. -/
def attemptsFrom (job : UpdateJob) (attempt left : Nat) : Update :=
  attempts job.kind job.key job.mutations job.policy job.deadline attempt left

/-- The end of an update that met the deadline. -/
def endLate (job : UpdateJob) : Update :=
  call (.count .updateDeadlines) fun _ => done (.error (.deadlineExceeded job.kind job.key))

/-- What follows the draw of a delay. -/
def sleepThen (job : UpdateJob) (attempt left : Nat) (drawn : Float) : Update :=
  sleep (job.policy.delay attempt drawn) job.deadline fun slept =>
    if slept then attemptsFrom job (attempt + 1) left else endLate job

/-- What follows a lost write. -/
def afterLoss (job : UpdateJob) (attempt : Nat) : Nat → Update
  | 0 => done (.error (.exhausted job.kind job.key attempt))
  | left + 1 => call (.draw job.policy.jitter) (sleepThen job attempt left)

/-- What follows a write. -/
def afterWrite (job : UpdateJob) (attempt left : Nat) : Except StoreError Resource → Update
  | .ok written => call (.count .updateWrites) fun _ => done (.ok ⟨written.conditions, true⟩)
  | .error e =>
    if e.isConflict then call (.count .updateConflicts) fun _ => afterLoss job attempt left
    else done (.error e)

/-- What is left of the program at a position. -/
def program (job : UpdateJob) : Position → Update
  | reading attempt left => attemptsFrom job attempt left
  | writing attempt left read conditions =>
    call (.updateStatus job.kind { read with conditions := conditions })
      (afterWrite job attempt left)
  | wrote written => call (.count .updateWrites) fun _ => done (.ok ⟨written.conditions, true⟩)
  | lost attempt left => call (.count .updateConflicts) fun _ => afterLoss job attempt left
  | drawing attempt left => call (.draw job.policy.jitter) (sleepThen job attempt left)
  | sleeping attempt left drawn => sleepThen job attempt left drawn
  | late => endLate job
  | ended result => done result
  | broken => abort

/-! ## Where a step leads -/

/-- The position after a read. -/
def ofRead (job : UpdateJob) (attempt left : Nat) :
    Except StoreError (Option Resource) → Position
  | .error e => ended (.error e)
  | .ok none => ended (.error (.notFound job.kind job.key))
  | .ok (some object) =>
    match Mutation.applyAll job.mutations object.conditions with
    | .error (.error e) => ended (.error e)
    | .error .beyondCalendar => broken
    | .ok conditions =>
      if conditions = object.conditions then ended (.ok ⟨conditions, false⟩)
      else writing attempt left object conditions

/-- The position after a write. -/
def ofWrite (attempt left : Nat) : Except StoreError Resource → Position
  | .ok written => wrote written
  | .error e => if e.isConflict then lost attempt left else ended (.error e)

/-- The position after a loss was counted. -/
def ofLoss (job : UpdateJob) (attempt : Nat) : Nat → Position
  | 0 => ended (.error (.exhausted job.kind job.key attempt))
  | left + 1 => drawing attempt left

theorem program_ofLoss (job : UpdateJob) (attempt left : Nat) :
    (ofLoss job attempt left).program job = afterLoss job attempt left := by
  cases left <;> rfl

theorem program_ofWrite (job : UpdateJob) (attempt left : Nat)
    (written : Except StoreError Resource) :
    (ofWrite attempt left written).program job = afterWrite job attempt left written := by
  cases written with
  | ok written => rfl
  | error e =>
    simp only [ofWrite, afterWrite]
    split <;> rfl

/-- After a read the update has ended, was broken off, or comes to write. -/
theorem ofRead_cases (job : UpdateJob) (attempt left : Nat)
    (found : Except StoreError (Option Resource)) :
    (∃ result, ofRead job attempt left found = ended result) ∨
      ofRead job attempt left found = broken ∨
      ∃ read conditions, ofRead job attempt left found = writing attempt left read conditions := by
  rcases found with e | _ | object
  · exact .inl ⟨_, rfl⟩
  · exact .inl ⟨_, rfl⟩
  · rw [ofRead]
    rcases Mutation.applyAll job.mutations object.conditions with (e | _) | conditions
    · exact .inl ⟨_, rfl⟩
    · exact .inr (.inl rfl)
    · by_cases hsame : conditions = object.conditions
      · exact .inl ⟨_, if_pos hsame⟩
      · exact .inr (.inr ⟨object, conditions, if_neg hsame⟩)

/-- After a write the update has written, has lost, or has ended. -/
theorem ofWrite_cases (attempt left : Nat) (written : Except StoreError Resource) :
    (∃ object, ofWrite attempt left written = wrote object) ∨
      ofWrite attempt left written = lost attempt left ∨
      ∃ result, ofWrite attempt left written = ended result := by
  rcases written with e | object
  · by_cases hconflict : e.isConflict = true
    · exact .inr (.inl (if_pos hconflict))
    · exact .inr (.inr ⟨_, if_neg hconflict⟩)
  · exact .inl ⟨object, rfl⟩

/-- A cycle is a read, and goes on from what it found. -/
theorem cycle_eq (job : UpdateJob) (attempt left : Nat) {lost : Unit → Update}
    (hlost : lost () = afterLoss job attempt left) :
    cycle job.kind job.key job.mutations lost =
      call (.get job.kind job.key) fun found => (ofRead job attempt left found).program job := by
  refine congrArg (call (.get job.kind job.key)) (funext fun found => ?_)
  rcases found with e | _ | object
  · rfl
  · rfl
  · change (match Mutation.applyAll job.mutations object.conditions with
      | .error (.error e) => done (.error e)
      | .error .beyondCalendar => abort
      | .ok conditions => _ : Update) = _
    rw [ofRead]
    rcases Mutation.applyAll job.mutations object.conditions with (e | _) | conditions
    · rfl
    · rfl
    · dsimp only
      split
      · rfl
      · refine congrArg (call _) (funext fun written => ?_)
        rcases written with e | written
        · change (if e.isConflict then (call _ fun _ => lost () : Update) else _) = _
          rw [hlost]
          rfl
        · rfl

/-- The attempts begin with a read, and go on from what it found. -/
theorem attemptsFrom_eq (job : UpdateJob) (attempt left : Nat) :
    attemptsFrom job attempt left =
      call (.get job.kind job.key) fun found => (ofRead job attempt left found).program job := by
  cases left with
  | zero =>
    rw [attemptsFrom, attempts]
    exact cycle_eq job attempt 0 rfl
  | succ left =>
    rw [attemptsFrom, attempts]
    exact cycle_eq job attempt (left + 1) rfl

/-- The program at a position: it has ended or was broken off there, or it
goes on with a call or a sleep. -/
theorem program_cases (job : UpdateJob) (pos : Position) :
    (∃ result, pos = ended result) ∨ pos = broken ∨
      (∃ c next, pos.program job = call c next) ∨
      ∃ delay deadline next, pos.program job = sleep delay deadline next := by
  cases pos with
  | ended result => exact .inl ⟨result, rfl⟩
  | broken => exact .inr (.inl rfl)
  | sleeping => exact .inr (.inr (.inr ⟨_, _, _, rfl⟩))
  | reading attempt left => exact .inr (.inr (.inl ⟨_, _, attemptsFrom_eq job attempt left⟩))
  | writing => exact .inr (.inr (.inl ⟨_, _, rfl⟩))
  | wrote => exact .inr (.inr (.inl ⟨_, _, rfl⟩))
  | lost => exact .inr (.inr (.inl ⟨_, _, rfl⟩))
  | drawing => exact .inr (.inr (.inl ⟨_, _, rfl⟩))
  | late => exact .inr (.inr (.inl ⟨_, _, rfl⟩))

variable {job : UpdateJob} {pos : Position}

/-- The program ends with a result only at the end. -/
theorem eq_ended {result : Except StoreError UpdateResult} (h : pos.program job = done result) :
    pos = ended result := by
  obtain ⟨other, rfl⟩ | rfl | ⟨c, next, heq⟩ | ⟨delay, deadline, next, heq⟩ :=
    program_cases job pos
  · cases h
    rfl
  · cases h
  · cases heq.symm.trans h
  · cases heq.symm.trans h

/-- It is broken off only where it was. -/
theorem eq_broken (h : pos.program job = abort) : pos = broken := by
  obtain ⟨other, rfl⟩ | rfl | ⟨c, next, heq⟩ | ⟨delay, deadline, next, heq⟩ :=
    program_cases job pos
  · cases h
  · rfl
  · cases heq.symm.trans h
  · cases heq.symm.trans h

/-- It never waits for a key. -/
theorem program_ne_take (next : Option Key → Update) : pos.program job ≠ take next := by
  intro h
  obtain ⟨other, rfl⟩ | rfl | ⟨c, next, heq⟩ | ⟨delay, deadline, next, heq⟩ :=
    program_cases job pos
  · cases h
  · cases h
  · cases heq.symm.trans h
  · cases heq.symm.trans h

end Position

/-! ## Steps -/

open Position

/-- A step of an update, from position to position. -/
inductive Moves (job : UpdateJob) :
    Position → Hub MemoryStore → Option Call → Position → Hub MemoryStore → Prop
  | read (attempt left : Nat) (h : Hub MemoryStore) :
      Moves job (.reading attempt left) h (some (.get job.kind job.key))
        (ofRead job attempt left (h.store.get job.kind job.key).1)
        { h with store := (h.store.get job.kind job.key).2 }
  | write (attempt left : Nat) (read : Resource) (conditions : List Condition)
      (h : Hub MemoryStore) :
      Moves job (.writing attempt left read conditions) h
        (some (.updateStatus job.kind { read with conditions := conditions }))
        (ofWrite attempt left
          (h.store.updateStatus job.kind { read with conditions := conditions }).1)
        { h with
          store := (h.store.updateStatus job.kind { read with conditions := conditions }).2 }
  | counted (written : Resource) {h h' : Hub MemoryStore} (same : h'.store = h.store) :
      Moves job (.wrote written) h (some (.count .updateWrites))
        (.ended (.ok ⟨written.conditions, true⟩)) h'
  | countedLoss (attempt left : Nat) {h h' : Hub MemoryStore} (same : h'.store = h.store) :
      Moves job (.lost attempt left) h (some (.count .updateConflicts)) (ofLoss job attempt left) h'
  | drew (attempt left : Nat) (drawn : Float) (h : Hub MemoryStore) :
      Moves job (.drawing attempt left) h (some (.draw job.policy.jitter))
        (.sleeping attempt left drawn) h
  /-- It has slept, and attempts again. -/
  | slept (attempt left : Nat) (drawn : Float) {h h' : Hub MemoryStore}
      (same : h'.store = h.store) :
      Moves job (.sleeping attempt left drawn) h none (.reading (attempt + 1) left) h'
  /-- The deadline has cut its sleep. -/
  | cut (attempt left : Nat) (drawn : Float) {h h' : Hub MemoryStore}
      (same : h'.store = h.store) : Moves job (.sleeping attempt left drawn) h none .late h'
  | countedLate {h h' : Hub MemoryStore} (same : h'.store = h.store) :
      Moves job .late h (some (.count .updateDeadlines))
        (.ended (.error (.deadlineExceeded job.kind job.key))) h'

open Position

variable {job : UpdateJob} {pos : Position} {h h' : Hub MemoryStore} {c : Option Call} {p : Update}

theorem step_call {c' : Call} {next : c'.Answer → Update}
    (step : Step (.call c' next) h c p h') :
    ∃ a, h.Answers c' a h' ∧ c = some c' ∧ p = next a := by
  cases step with
  | call answers => exact ⟨_, answers, rfl, rfl⟩

/-- A count leaves the store alone. -/
theorem store_of_count {σ : Type} [Authority σ] {h h' : Hub σ} {counter : Counter} {a : Unit}
    (answers : h.Answers (.count counter) a h') : h'.store = h.store := by
  obtain ⟨-, rfl⟩ := answers.eq (fun _ heq => nomatch heq) (fun heq => nomatch heq)
  rfl

/-- **What follows a loss**: the end of the update, for want of attempts or
of time, or another attempt. -/
theorem afterLoss_ends {σ : Type} [Authority σ] {h h' : Hub σ} {attempt left : Nat}
    {calls : List Call} {ending : Hub.Ending (Except StoreError UpdateResult)}
    (run : Runs (afterLoss job attempt left) h calls ending h') :
    (left = 0 ∧ ending = .result (.error (.exhausted job.kind job.key attempt)) ∧
      h'.store = h.store) ∨
    (job.deadline.isSome = true ∧
      ending = .result (.error (.deadlineExceeded job.kind job.key)) ∧ h'.store = h.store) ∨
    ∃ left' mid calls', left = left' + 1 ∧ mid.store = h.store ∧
      Runs (attemptsFrom job (attempt + 1) left') mid calls' ending h' := by
  cases left with
  | zero =>
    obtain ⟨-, rfl, rfl⟩ := run.of_done
    exact .inl ⟨rfl, rfl, rfl⟩
  | succ left =>
    obtain ⟨drawn, drew, _, draws, -, run⟩ := run.of_call
    obtain ⟨slept, mid, passes, cut, run⟩ := run.of_sleep
    have hmid : mid.store = h.store := passes.aside.1.trans (draws.draw ▸ rfl)
    cases slept with
    | true => exact .inr (.inr ⟨left, mid, _, rfl, hmid, run⟩)
    | false =>
      obtain ⟨_, -, run⟩ := run.of_decided trivial
      obtain ⟨-, rfl, rfl⟩ := run.of_done
      exact .inr (.inl ⟨cut rfl, rfl, hmid⟩)

/-- **A step from a position leads to a position.** -/
theorem Moves.of_step (step : Step (pos.program job) h c p h') :
    ∃ pos', p = pos'.program job ∧ Moves job pos h c pos' h' := by
  -- every position but the last begins with one call or one sleep, and a step is just that
  cases pos with
  | reading attempt left =>
    rw [program, attemptsFrom_eq] at step
    obtain ⟨found, answers, rfl, rfl⟩ := step_call step
    obtain ⟨rfl, rfl⟩ := answers.eq (fun _ heq => nomatch heq) (fun heq => nomatch heq)
    exact ⟨_, rfl, .read attempt left h⟩
  | writing attempt left read conditions =>
    obtain ⟨written, answers, rfl, rfl⟩ := step_call step
    obtain ⟨rfl, rfl⟩ := answers.eq (fun _ heq => nomatch heq) (fun heq => nomatch heq)
    exact ⟨_, (program_ofWrite job attempt left _).symm, .write attempt left read conditions h⟩
  | wrote written =>
    obtain ⟨a, answers, rfl, rfl⟩ := step_call step
    exact ⟨_, rfl, .counted written (store_of_count answers)⟩
  | lost attempt left =>
    obtain ⟨a, answers, rfl, rfl⟩ := step_call step
    exact ⟨_, (program_ofLoss job attempt left).symm,
      .countedLoss attempt left (store_of_count answers)⟩
  | drawing attempt left =>
    obtain ⟨drawn, answers, rfl, rfl⟩ := step_call step
    rw [answers.draw]
    exact ⟨.sleeping attempt left drawn, rfl, .drew attempt left drawn h⟩
  | sleeping attempt left drawn =>
    cases step with
    | sleep passes cut =>
      rename_i slept
      cases slept with
      | true => exact ⟨.reading (attempt + 1) left, rfl, .slept attempt left drawn passes.aside.1⟩
      | false => exact ⟨.late, rfl, .cut attempt left drawn passes.aside.1⟩
  | late =>
    obtain ⟨a, answers, rfl, rfl⟩ := step_call step
    exact ⟨.ended _, rfl, .countedLate (store_of_count answers)⟩
  | ended result => cases step
  | broken => cases step

end StatusUpdate

end ClusterFleet
