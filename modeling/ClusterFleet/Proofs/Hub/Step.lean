import ClusterFleet.Hub.State

/-!
# Hub — the steps of a program

A program asks for one thing at a time, and `Step` is one such request
with every answer that the surroundings may give: what is drawn at random
and what the calendar shows are left open, and while the program sleeps
time passes and timers go off. `Runs` is a program from its start to its
end with nothing else between its steps. `Hub.runAlone` is one of these
runs (`Runs.of_runAlone`), so what holds of all of them holds of it.

The lemmas below take a run apart along the program: one for each form
a program has, and `Runs.of_bind` for programs put together.
-/

namespace ClusterFleet

/-- Where an entry stands in a record that has just grown by one: it is
the last one, or it stood there before. -/
theorem split_snoc {ε : Type} {x y : ε} {events before after : List ε}
    (heq : events ++ [x] = before ++ y :: after) :
    (after = [] ∧ events = before ∧ x = y) ∨
      ∃ earlier, after = earlier ++ [x] ∧ events = before ++ y :: earlier := by
  rcases List.eq_nil_or_concat after with rfl | ⟨earlier, last, rfl⟩
  · obtain ⟨hevents, hx⟩ := List.append_inj' heq rfl
    exact Or.inl ⟨rfl, hevents, List.singleton_inj.1 hx⟩
  · rw [List.concat_eq_append, ← List.cons_append, ← List.append_assoc] at heq
    obtain ⟨hevents, hx⟩ := List.append_inj' heq rfl
    rw [List.concat_eq_append, List.singleton_inj.1 hx]
    exact Or.inr ⟨earlier, rfl, hevents⟩

namespace Hub

variable {σ : Type}

/-- The hub after a delayed addition has gone off. -/
def goOff (d : Delayed) (h : Hub σ) : Hub σ :=
  ({ h with delayed := h.delayed.erase d } : Hub σ).add d.key

/-- Time passes: the clock goes on, and delayed additions go off when they
are due. -/
inductive Passes : Hub σ → Hub σ → Prop
  | rest (h : Hub σ) : Passes h h
  | goesOn {h h' : Hub σ} (before : Passes h h') {now : Moment}
      (later : h'.clock.nanos ≤ now.nanos) : Passes h { h' with clock := now }
  | wentOff {h h' : Hub σ} (before : Passes h h') {d : Delayed} (waits : d ∈ h'.delayed)
      (due : d.due.tick ≤ h'.clock.tick) : Passes h (h'.goOff d)

/-- Passing time leaves the store and the cache alone. -/
theorem Passes.aside {h h' : Hub σ} (passes : h.Passes h') :
    h'.store = h.store ∧ h'.cache = h.cache := by
  induction passes with
  | rest => exact ⟨rfl, rfl⟩
  | goesOn _ _ ih => exact ih
  | wentOff _ _ _ ih => exact ih

variable [Authority σ]

/-- Every answer that a call may get: the usual one, but what is drawn at
random and what the calendar shows may be anything. -/
inductive Answers : (c : Call) → Hub σ → c.Answer → Hub σ → Prop
  | usual (c : Call) (h : Hub σ) : Answers c h (h.answer c).1 (h.answer c).2
  | drawn (bound drawn : Float) (h : Hub σ) : Answers (.draw bound) h drawn h
  | shown (now : Instant) (h : Hub σ) : Answers .calendar h now { h with calendar := now }

/-- The other calls get their usual answer. -/
theorem Answers.eq {c : Call} {h h' : Hub σ} {a : c.Answer} (hans : Answers c h a h')
    (hdraw : ∀ bound, c ≠ .draw bound) (hcalendar : c ≠ .calendar) :
    a = (h.answer c).1 ∧ h' = (h.answer c).2 := by
  cases hans with
  | usual => exact ⟨rfl, rfl⟩
  | drawn bound => exact absurd rfl (hdraw bound)
  | shown => exact absurd rfl hcalendar

/-- Whether the hub decides the answer to a call. -/
def Decides : Call → Prop
  | .draw _ => False
  | .calendar => False
  | _ => True

/-- What the hub decides is answered as usual. -/
theorem Answers.of_decides {c : Call} {h h' : Hub σ} {a : c.Answer} (hans : Answers c h a h')
    (decides : Decides c) : a = (h.answer c).1 ∧ h' = (h.answer c).2 := by
  cases hans with
  | usual => exact ⟨rfl, rfl⟩
  | drawn => exact decides.elim
  | shown => exact decides.elim

theorem Answers.get (kind : Kind) (key : Key) (h : Hub σ) :
    Answers (.get kind key) h (Authority.get kind key h.store).1
      { h with store := (Authority.get kind key h.store).2 } := .usual _ h

theorem Answers.updateStatus (kind : Kind) (object : Resource) (h : Hub σ) :
    Answers (.updateStatus kind object) h (Authority.updateStatus kind object h.store).1
      { h with store := (Authority.updateStatus kind object h.store).2 } := .usual _ h

/-- What a call makes of a store: the three requests on objects go to it,
and nothing else does. -/
inductive Reaches : Call → σ → σ → Prop
  | get (kind : Kind) (key : Key) (s : σ) : Reaches (.get kind key) s (Authority.get kind key s).2
  | list (kind : Kind) (s : σ) : Reaches (.list kind) s (Authority.list kind s).2
  | updateStatus (kind : Kind) (object : Resource) (s : σ) :
      Reaches (.updateStatus kind object) s (Authority.updateStatus kind object s).2
  | aside (c : Call) (s : σ) : Reaches c s s

theorem Answers.reaches {c : Call} {h h' : Hub σ} {a : c.Answer} (hans : Answers c h a h') :
    Reaches c h.store h'.store := by
  cases hans with
  | drawn => exact .aside _ _
  | shown => exact .aside _ _
  | usual =>
    cases c with
    | get kind key => exact .get kind key _
    | list kind => exact .list kind _
    | updateStatus kind object => exact .updateStatus kind object _
    | addAfter key delay =>
      have hstore : (h.addAfter key delay).store = h.store := by
        unfold addAfter
        split <;> rfl
      change Reaches (.addAfter key delay) h.store (h.addAfter key delay).store
      exact hstore ▸ .aside _ _
    | _ => exact .aside _ _

/-- What is drawn changes nothing. -/
theorem Answers.draw {bound : Float} {h h' : Hub σ} {a : Float}
    (hans : Answers (.draw bound) h a h') : h' = h := by
  cases hans <;> rfl

/-- The calendar is left at what it showed. -/
theorem Answers.calendar {h h' : Hub σ} {a : Instant} (hans : Answers .calendar h a h') :
    h' = { h with calendar := a } := by
  cases hans with
  | usual => rfl
  | shown => rfl

end Hub

variable {σ : Type} [Authority σ] {α β : Type}

/-- One step of a program, with the call that it makes, if it makes one. -/
inductive Step : Program α → Hub σ → Option Call → Program α → Hub σ → Prop
  | call {c : Call} {next : c.Answer → Program α} {h h' : Hub σ} {a : c.Answer}
      (answers : h.Answers c a h') : Step (.call c next) h (some c) (next a) h'
  | sleep {delay : Span} {deadline : Option Moment} {next : Bool → Program α} {h h' : Hub σ}
      {slept : Bool} (passes : h.Passes h') (cut : slept = false → deadline.isSome = true) :
      Step (.sleep delay deadline next) h none (next slept) h'
  | take {next : Option Key → Program α} {h : Hub σ} {key : Key} {queue : WorkQueue}
      (pop : h.queue.pop = (.key key, queue)) :
      Step (.take next) h none (next (some key)) { h with queue := queue }
  | takeNone {next : Option Key → Program α} {h : Hub σ} {queue : WorkQueue}
      (pop : h.queue.pop = (.closed, queue)) : Step (.take next) h none (next none) h

/-- A sleep that nobody cuts short may take no time. -/
theorem Step.rested (delay : Span) (deadline : Option Moment) (next : Bool → Program α)
    (h : Hub σ) : Step (.sleep delay deadline next) h none (next true) h :=
  .sleep (.rest h) fun heq => nomatch heq

/-- A program from start to end, with the calls that it makes. -/
inductive Runs : Program α → Hub σ → List Call → Hub.Ending α → Hub σ → Prop
  | done (a : α) (h : Hub σ) : Runs (.done a) h [] (.result a) h
  | abort (h : Hub σ) : Runs .abort h [] .aborted h
  | stuck {next : Option Key → Program α} {h : Hub σ} {queue : WorkQueue}
      (pop : h.queue.pop = (.wait, queue)) : Runs (.take next) h [] .stuck h
  | step {p p' : Program α} {h h' h'' : Hub σ} {c : Option Call} {calls : List Call}
      {ending : Hub.Ending α} (step : Step p h c p' h') (rest : Runs p' h' calls ending h'') :
      Runs p h (c.toList ++ calls) ending h''

namespace Runs

variable {p : Program α} {f : α → Program β} {h h' : Hub σ} {calls : List Call}
variable {ending : Hub.Ending α} {ending' : Hub.Ending β}

/-! ## Along the program -/

theorem of_done {a : α} (run : Runs (.done a) h calls ending h') :
    calls = [] ∧ ending = .result a ∧ h' = h := by
  cases run with
  | done => exact ⟨rfl, rfl, rfl⟩
  | step step _ => cases step

theorem of_abort (run : Runs (.abort : Program α) h calls ending h') :
    calls = [] ∧ ending = .aborted ∧ h' = h := by
  cases run with
  | abort => exact ⟨rfl, rfl, rfl⟩
  | step step _ => cases step

theorem of_call {c : Call} {next : c.Answer → Program α}
    (run : Runs (.call c next) h calls ending h') :
    ∃ a mid later, h.Answers c a mid ∧ calls = c :: later ∧
      Runs (next a) mid later ending h' := by
  cases run with
  | step step rest =>
    cases step with
    | call answers => exact ⟨_, _, _, answers, rfl, rest⟩

/-- A call whose answer the hub decides leads to one state. -/
theorem of_decided {c : Call} {next : c.Answer → Program α}
    (run : Runs (.call c next) h calls ending h') (decides : Hub.Decides c) :
    ∃ later, calls = c :: later ∧ Runs (next (h.answer c).1) (h.answer c).2 later ending h' := by
  obtain ⟨a, mid, later, answers, heq, rest⟩ := run.of_call
  obtain ⟨rfl, rfl⟩ := answers.of_decides decides
  exact ⟨later, heq, rest⟩

theorem of_sleep {delay : Span} {deadline : Option Moment} {next : Bool → Program α}
    (run : Runs (.sleep delay deadline next) h calls ending h') :
    ∃ slept mid, h.Passes mid ∧ (slept = false → deadline.isSome = true) ∧
      Runs (next slept) mid calls ending h' := by
  cases run with
  | step step rest =>
    cases step with
    | sleep passes cut => exact ⟨_, _, passes, cut, rest⟩

/-- A program that waits for a key gets the oldest, or none when the queue
is closed, or waits for ever. -/
theorem of_take {next : Option Key → Program α}
    (run : Runs (.take next) h calls ending h') :
    (∃ key queue, h.queue.pop = (.key key, queue) ∧
      Runs (next (some key)) { h with queue := queue } calls ending h') ∨
    (∃ queue, h.queue.pop = (.closed, queue) ∧ Runs (next none) h calls ending h') ∨
    (∃ queue, h.queue.pop = (.wait, queue) ∧ calls = [] ∧ ending = .stuck ∧ h' = h) := by
  cases run with
  | stuck pop => exact .inr (.inr ⟨_, pop, rfl, rfl, rfl⟩)
  | step step rest =>
    cases step with
    | take pop => exact .inl ⟨_, _, pop, rest⟩
    | takeNone pop => exact .inr (.inl ⟨_, pop, rest⟩)

/-- How a run of two programs put together ends: the second goes on with
the result of the first, or the first gives none. -/
inductive Chained (p : Program α) (f : α → Program β) (h : Hub σ) :
    List Call → Hub.Ending β → Hub σ → Prop
  | both {a : α} {first later : List Call} {mid h' : Hub σ} {ending : Hub.Ending β}
      (run : Runs p h first (.result a) mid) (rest : Runs (f a) mid later ending h') :
      Chained p f h (first ++ later) ending h'
  | aborted {calls : List Call} {h' : Hub σ} (run : Runs p h calls .aborted h') :
      Chained p f h calls .aborted h'
  | stuck {calls : List Call} {h' : Hub σ} (run : Runs p h calls .stuck h') :
      Chained p f h calls .stuck h'

theorem Chained.step {p p' : Program α} {mid : Hub σ} {c : Option Call}
    (step : Step p h c p' mid) (chained : Chained p' f mid calls ending' h') :
    Chained p f h (c.toList ++ calls) ending' h' := by
  cases chained with
  | both run rest =>
    rw [← List.append_assoc]
    exact .both (.step step run) rest
  | aborted run => exact .aborted (.step step run)
  | stuck run => exact .stuck (.step step run)

/-- **A run of two programs put together** is a run of the first and then
one of the second. -/
theorem of_bind (run : Runs (p.bind f) h calls ending' h') : Chained p f h calls ending' h' := by
  induction p generalizing h calls with
  | done a => exact .both (.done a h) run
  | abort =>
    obtain ⟨rfl, rfl, rfl⟩ := run.of_abort
    exact .aborted (.abort _)
  | call c next ih =>
    obtain ⟨a, mid, later, answers, rfl, rest⟩ := run.of_call
    exact .step (.call answers) (ih a rest)
  | sleep delay deadline next ih =>
    obtain ⟨slept, mid, passes, cut, rest⟩ := run.of_sleep
    exact .step (.sleep passes cut) (ih slept rest)
  | take next ih =>
    rcases run.of_take with ⟨key, queue, pop, rest⟩ | ⟨queue, pop, rest⟩ | ⟨queue, pop, rfl, rfl, rfl⟩
    · exact .step (.take pop) (ih _ rest)
    · exact .step (.takeNone pop) (ih _ rest)
    · exact .stuck (.stuck pop)

/-! ## Running alone -/

theorem le_of_ceil_lt {a unit n : Nat} (hunit : 0 < unit) (h : (unit - 1 + a) / unit < n) :
    a ≤ n * unit := by
  have := (Nat.div_lt_iff_lt_mul hunit).mp h
  omega

/-- A tick that is still to come is no earlier than now. -/
theorem le_ofTick {clock : Moment} {n : Nat} (h : clock.tick < n) :
    clock.nanos ≤ (Moment.ofTick n).nanos :=
  le_of_ceil_lt (by decide) h

/-- A wait ends no earlier than it begins. -/
theorem clock_le_wait (clock : Moment) (delay : Span) (deadline : Option Moment) :
    clock.nanos ≤ (Hub.wait clock delay deadline).2.nanos := by
  simp only [Hub.wait]
  split
  · exact Nat.le_refl _
  · rename_i hpast
    cases deadline with
    | none => exact le_ofTick (Nat.lt_of_not_le hpast)
    | some limit =>
      simp only
      split
      · exact le_ofTick (Nat.lt_of_not_le hpast)
      · change clock.nanos ≤ (ite _ _ _ : Moment).nanos
        split
        · exact Nat.le_refl _
        · rename_i hlimit
          exact le_ofTick (Nat.lt_of_not_le hlimit)

/-- Only a deadline cuts a wait short. -/
theorem wait_none (clock : Moment) (delay : Span) : (Hub.wait clock delay none).1 = true := by
  simp only [Hub.wait]
  split
  · rfl
  · rfl

/-- A wait is one of the steps. -/
theorem step_wait (delay : Span) (deadline : Option Moment) (next : Bool → Program α) (h : Hub σ) :
    Step (.sleep delay deadline next) h none (next (Hub.wait h.clock delay deadline).1)
      { h with clock := (Hub.wait h.clock delay deadline).2 } := by
  have hlater := clock_le_wait h.clock delay deadline
  have hcut : (Hub.wait h.clock delay deadline).1 = false → deadline.isSome = true := by
    cases deadline with
    | none =>
      rw [wait_none]
      intro hfalse
      cases hfalse
    | some limit => exact fun _ => rfl
  exact .sleep (.goesOn (.rest h) hlater) hcut

/-- **Running alone is one of the runs.** -/
theorem of_runAlone (p : Program α) (h : Hub σ) :
    ∃ calls, Runs p h calls (Hub.runAlone p h).1 (Hub.runAlone p h).2 := by
  induction p generalizing h with
  | done a => exact ⟨[], .done a h⟩
  | abort => exact ⟨[], .abort h⟩
  | call c next ih =>
    obtain ⟨calls, run⟩ := ih (h.answer c).1 (h.answer c).2
    exact ⟨_, .step (.call (.usual c h)) run⟩
  | sleep delay deadline next ih =>
    let waited := Hub.wait h.clock delay deadline
    obtain ⟨calls, run⟩ := ih waited.1 { h with clock := waited.2 }
    exact ⟨_, .step (step_wait delay deadline next h) run⟩
  | take next ih =>
    rw [Hub.runAlone]
    cases hpop : h.queue.pop with
    | mk delivery queue =>
      cases delivery with
      | key key =>
        obtain ⟨calls, run⟩ := ih (some key) { h with queue := queue }
        exact ⟨_, .step (.take hpop) run⟩
      | closed =>
        obtain ⟨calls, run⟩ := ih none h
        exact ⟨_, .step (.takeNone hpop) run⟩
      | wait => exact ⟨_, .stuck hpop⟩

/-- Running alone to a result is a run. -/
theorem of_result {p : Program α} {h : Hub σ} {a : α}
    (hends : (Hub.runAlone p h).1 = .result a) :
    ∃ calls, Runs p h calls (.result a) (Hub.runAlone p h).2 := by
  rw [← hends]
  exact of_runAlone p h

end Runs

deriving instance DecidableEq for Hub.Ending

end ClusterFleet
