import ClusterFleet.Proofs.Hub.Amid
import ClusterFleet.Proofs.Sync.Release

/-!
# Sync — a failed key comes back

Several workers share a hub, and whatever else uses it adds keys, plants
faults, changes objects and lets time pass. A `Crew` is the hub with the
jobs that are under way, and `CrewRun` is every order in which they get
on: a job is taken up to its next request, so anything may fall between
two of its requests. What follows the result, up to the release of the
key, waits for nothing and is one step (`CrewStep.finished`).

A key whose work failed in a way that may mend is awaited from then on: it
has a timer, or waits, or is marked. Only a handing out, a drop from a full
queue and the shutdown end this (`CrewStep.awaits_or`). The record of
failures holds those keys and no others (`CrewRun.mem_failures`).
`failures_are_redelivered` puts both together.
-/

namespace ClusterFleet

open Program

/-! ## A turn in two parts -/

/-- The work on a key, under the time limit. -/
def Runner.sync (settings : Settings) (key : Key) : Program (Except StoreError SyncOutcome) :=
  withDeadline settings.syncTimeout fun deadline =>
    ClusterSet.reconcile settings.prune settings.retry deadline key

/-- What follows the work on a key, with the release of the key. -/
def Runner.conclude (settings : Settings) (key : Key) (result : Except StoreError SyncOutcome) :
    Program Bool :=
  (afterSync settings key result).bind fun _ => call (.release key) fun _ => done true

theorem withDeadline_bind {α β : Type} (timeout : Option Span) (work : Option Moment → Program α)
    (f : α → Program β) :
    (Runner.withDeadline timeout work).bind f =
      Runner.withDeadline timeout fun deadline => (work deadline).bind f := by
  cases timeout with
  | none => rfl
  | some span =>
    refine congrArg (call .clock) (funext fun (now : Moment) => ?_)
    beta_reduce
    cases now.after? span with
    | none => rfl
    | some deadline => rfl

/-- **A turn** takes a key, works on it, and concludes. -/
theorem processNext_eq (settings : Settings) :
    Runner.processNext settings = take fun
      | none => done false
      | some key => (Runner.sync settings key).bind (Runner.conclude settings key) := by
  refine congrArg take (funext fun taken => ?_)
  cases taken with
  | none => rfl
  | some key => exact (withDeadline_bind _ _ _).symm

theorem uses_withDeadline {α : Type} {allowed : Call → Prop} {work : Option Moment → Program α}
    (hclock : allowed .clock) (hwork : ∀ deadline, (work deadline).Uses allowed)
    (timeout : Option Span) : (Runner.withDeadline timeout work).Uses allowed := by
  cases timeout with
  | none => exact hwork none
  | some span =>
    refine ⟨hclock, fun now => ?_⟩
    beta_reduce
    split
    · exact hwork _
    · trivial

/-- The work on a key concerns neither the queue nor the record of
failures. -/
theorem aside_sync (settings : Settings) (key : Key) :
    (Runner.sync settings key).Uses Call.Aside :=
  uses_withDeadline trivial (fun _ => aside_reconcile) settings.syncTimeout

/-! ## What follows the work -/

variable {σ : Type} {h h' : Hub σ} {key k : Key}

/-- A delayed addition is made at once, or it gets a timer. -/
theorem Hub.addAfter_cases (h : Hub σ) (key : Key) (delay : Span) :
    h.addAfter key delay = h.add key ∨ ∃ d : Delayed, d.key = key ∧
      h.addAfter key delay = { h with delayed := h.delayed ++ [d], timers := h.timers + 1 } := by
  unfold Hub.addAfter
  by_cases hzero : delay = Span.zero
  · rw [if_pos hzero]
    exact .inl rfl
  · rw [if_neg hzero]
    exact .inr ⟨_, rfl, rfl⟩

/-- **What follows the work on a key**: a failure that may mend is noted and
the key is added again, at once or with a timer; after any other result the
failures are forgotten. Then the key is released. -/
inductive Concluded (key : Key) (h h' : Hub σ) : Except StoreError SyncOutcome → Prop
  | settled {result : Except StoreError SyncOutcome}
      (final : ∀ e, result = .error e → ¬e.isRetryable = true)
      (queue : h'.queue = h.queue.done key) (delayed : h'.delayed = h.delayed)
      (failures : h'.failures = (h.forgetFailures key).failures) : Concluded key h h' result
  | again {e : StoreError} (retry : e.isRetryable = true)
      (failures : h'.failures = (h.noteFailure key).failures)
      (added : (h'.queue = (h.queue.add key).done key ∧ h'.delayed = h.delayed) ∨
        (h'.queue = h.queue.done key ∧
          ∃ d : Delayed, d.key = key ∧ h'.delayed = h.delayed ++ [d])) :
      Concluded key h h' (.error e)

/-- The hub at the end of a turn after which a key is not queued again. -/
def Hub.settled (key : Key) (h : Hub σ) : Hub σ :=
  { h.forgetFailures key with queue := h.queue.done key }

/-- The hub at the end of a turn after which a key is queued again after a
delay. -/
def Hub.requeued (key : Key) (delay : Span) (h : Hub σ) : Hub σ :=
  let noted := { h.noteFailure key with counts := h.counts.bump .requeues }
  let added := noted.addAfter key delay
  { added with queue := added.queue.done key }

theorem Hub.concluded_requeued {e : StoreError} (h : Hub σ) (key : Key) (delay : Span)
    (hretry : e.isRetryable = true) : Concluded key h (h.requeued key delay) (.error e) := by
  let noted : Hub σ := { h.noteFailure key with counts := h.counts.bump .requeues }
  let added : Hub σ := noted.addAfter key delay
  change Concluded key h { added with queue := added.queue.done key } _
  obtain heq | ⟨d, hd, heq⟩ : added = noted.add key ∨ ∃ d : Delayed, d.key = key ∧ added = _ :=
    noted.addAfter_cases key delay
  · rw [heq]
    exact .again hretry rfl (.inl ⟨rfl, rfl⟩)
  · rw [heq]
    exact .again hretry rfl (.inr ⟨rfl, d, hd, rfl⟩)

/-- What is done to a queue at the end of a turn takes no other key out of a
worker's hands. -/
theorem Concluded.mem_processing {result : Except StoreError SyncOutcome}
    (concluded : Concluded key h h' result) (hk : k ∈ h.queue.processing) (hne : k ≠ key) :
    k ∈ h'.queue.processing := by
  have hadd : k ∈ ((h.add key).queue.done key).processing :=
    Hub.mem_processing_done (h := h.add key) (mem_processing_add hk key) hne
  cases concluded with
  | settled final queue => exact queue ▸ Hub.mem_processing_done hk hne
  | again retry failures added =>
    obtain ⟨queue, -⟩ | ⟨queue, -⟩ := added
    · exact queue ▸ hadd
    · exact queue ▸ Hub.mem_processing_done hk hne

theorem Concluded.sound {result : Except StoreError SyncOutcome}
    (concluded : Concluded key h h' result) (hs : h.queue.Sound) : h'.queue.Sound := by
  cases concluded with
  | settled final queue => exact queue ▸ hs.done key
  | again retry failures added =>
    obtain ⟨queue, -⟩ | ⟨queue, -⟩ := added
    · exact queue ▸ (hs.add key).done key
    · exact queue ▸ hs.done key

theorem Concluded.closed {result : Except StoreError SyncOutcome}
    (concluded : Concluded key h h' result) : h'.queue.closed = h.queue.closed := by
  cases concluded with
  | settled final queue => rw [queue, WorkQueue.done_closed]
  | again retry failures added =>
    obtain ⟨queue, -⟩ | ⟨queue, -⟩ := added
    · rw [queue, WorkQueue.done_closed, WorkQueue.add_closed]
    · rw [queue, WorkQueue.done_closed]

namespace WorkQueue

variable {q : WorkQueue}

/-- A key that is worked on is marked by an addition, and waits for no place
in the queue. -/
theorem add_of_processing (hwork : key ∈ q.processing) :
    q.add key = q ∨ q.add key = { q with dirty := withKey key q.dirty } := by
  obtain ⟨-, heq⟩ | ⟨-, -, -, heq⟩ | ⟨-, -, hidle, -⟩ := add_cases q key
  · exact .inl heq
  · exact .inr heq
  · exact absurd hwork hidle

/-- **A key that is added while it is worked on** and then released is
pending in an open queue: it is marked, and waits when the mark is
honoured. -/
theorem Sound.pending_add_done (hs : q.Sound) (hwork : key ∈ q.processing)
    (hopen : q.closed = false) : ((q.add key).done key).Pending key := by
  obtain hk | hdrops | ⟨-, hclosed, -⟩ :=
    (hs.add key).pending_done_or (pending_add hs hopen key) key
  · exact hk
  · -- what a full queue drops waits, and this key is worked on
    obtain ⟨rest, horder⟩ := hdrops.oldest
    have hwork' : key ∈ (q.add key).processing := mem_processing_add hwork key
    exact absurd hwork' ((hs.add key).not_processing key (horder ▸ List.mem_cons_self))
  · rw [add_closed, hopen] at hclosed
    cases hclosed

/-- The addition of a key that is worked on, and then its release, keep
another key pending, or one of them drops it from a full queue. -/
theorem Sound.pending_add_done_or (hs : q.Sound) (hwork : key ∈ q.processing)
    (hk : q.Pending k) : ((q.add key).done key).Pending k ∨ q.Drops ((q.add key).done key) k ∨
      q.closed = true := by
  have hk' : (q.add key).Pending k := by
    obtain heq | heq := add_of_processing hwork
    · rwa [heq]
    · rw [heq]
      exact hk.imp_right fun hmark => mem_withKey.2 (.inr hmark)
  obtain hk' | hdrops | ⟨-, hclosed, -⟩ := (hs.add key).pending_done_or hk' key
  · exact .inl hk'
  · -- the mark changes neither the order nor the room, so it is the release that drops the key
    refine .inr (.inl ?_)
    obtain heq | heq := add_of_processing hwork
    · rwa [heq] at hdrops ⊢
    · rw [heq] at hdrops ⊢
      exact ⟨hdrops.oldest, hdrops.full, hdrops.counted, hdrops.gone⟩
  · exact .inr (.inr (by rwa [add_closed] at hclosed))

end WorkQueue

/-- **A key whose failure may mend** is awaited after its turn, unless the
queue is shut down. -/
theorem Concluded.awaits {e : StoreError} (concluded : Concluded key h h' (.error e))
    (retry : e.isRetryable = true) (hs : h.queue.Sound) (hwork : key ∈ h.queue.processing) :
    h'.Awaits key ∨ h'.queue.closed = true := by
  cases hclosed : h.queue.closed with
  | true => exact .inr (concluded.closed.trans hclosed)
  | false =>
    cases concluded with
    | settled final => exact absurd retry (final e rfl)
    | again _ failures added =>
      obtain ⟨queue, -⟩ | ⟨-, d, hd, delayed⟩ := added
      · exact .inl (.inl (queue ▸ hs.pending_add_done hwork hclosed))
      · exact .inl (.inr ⟨d, delayed ▸ List.mem_append_right _ (List.mem_singleton.mpr rfl), hd⟩)

/-- The end of a turn keeps a key awaited, but for what a full queue drops
and for the shutdown. -/
theorem Concluded.awaits_or {result : Except StoreError SyncOutcome}
    (concluded : Concluded key h h' result) (hs : h.queue.Sound)
    (hwork : key ∈ h.queue.processing) (hk : h.Awaits k) :
    h'.Awaits k ∨ h.queue.Drops h'.queue k ∨ h'.queue.closed = true := by
  have hsame : h'.queue.closed = h.queue.closed := concluded.closed
  have hdone (queue : h'.queue = h.queue.done key) (hk : h.queue.Pending k) :
      h'.Awaits k ∨ h.queue.Drops h'.queue k ∨ h'.queue.closed = true := by
    obtain hk | hdrops | ⟨-, hclosed, -⟩ := hs.pending_done_or hk key
    · exact .inl (.inl (queue ▸ hk))
    · exact .inr (.inl (queue ▸ hdrops))
    · exact .inr (.inr (hsame.trans hclosed))
  -- it waits in the queue, which may drop it, or for a delay, which the turn leaves alone
  rcases hk with hk | ⟨d, hd, hkey⟩
  · cases concluded with
    | settled final queue => exact hdone queue hk
    | again retry failures added =>
      obtain ⟨queue, -⟩ | ⟨queue, -⟩ := added
      · obtain hk | hdrops | hclosed := hs.pending_add_done_or hwork hk
        · exact .inl (.inl (queue ▸ hk))
        · exact .inr (.inl (queue ▸ hdrops))
        · exact .inr (.inr (hsame.trans hclosed))
      · exact hdone queue hk
  · have hstays : d ∈ h'.delayed := by
      cases concluded with
      | settled final queue delayed => exact delayed ▸ hd
      | again retry failures added =>
        obtain ⟨-, delayed⟩ | ⟨-, d', -, delayed⟩ := added
        · exact delayed ▸ hd
        · exact delayed ▸ List.mem_append_left _ hd
    exact .inl (.inr ⟨d, hstays, hkey⟩)

/-! ## A crew -/

/-- A job under way: the key that was handed out, and what is left of the
work on it. -/
structure Job where
  key : Key
  rest : Program (Except StoreError SyncOutcome)

/-- A hub with the jobs under way on it. -/
structure Crew (σ : Type) where
  hub : Hub σ
  jobs : List Job

/-- The keys of the jobs under way. -/
def Crew.keys (crew : Crew σ) : List Key := crew.jobs.map Job.key

/-- **A sound crew**: its queue is sound, each key in work is in one
worker's hands, and what is left of a job concerns neither the queue nor the
record of failures. -/
structure Crew.Sound (crew : Crew σ) : Prop where
  queue : crew.hub.queue.Sound
  working : ∀ key ∈ crew.keys, key ∈ crew.hub.queue.processing
  apart : crew.keys.Nodup
  aside : ∀ job ∈ crew.jobs, job.rest.Uses Call.Aside

theorem Crew.sound_start (store : σ) (capacity : Nat) (calendar : Instant) :
    (Crew.mk (Hub.start store capacity calendar) []).Sound :=
  ⟨WorkQueue.sound_withCapacity capacity, fun _ hk => (nomatch hk), List.nodup_nil,
    fun _ hjob => (nomatch hjob)⟩

theorem Crew.Sound.job {before after : List Job} {job : Job}
    (hs : Crew.Sound ⟨h, before ++ job :: after⟩) :
    job.key ∈ h.queue.processing ∧ job.rest.Uses Call.Aside := by
  have hmem : job ∈ before ++ job :: after := List.mem_append_right _ List.mem_cons_self
  exact ⟨hs.working job.key (List.mem_map_of_mem hmem), hs.aside job hmem⟩

/-- A job that gets on is still a job on the same key. -/
theorem Crew.Sound.replace {before after : List Job} {job job' : Job}
    (hs : Crew.Sound ⟨h, before ++ job :: after⟩) (queue : h'.queue = h.queue)
    (hkey : job'.key = job.key) (haside : job'.rest.Uses Call.Aside) :
    Crew.Sound ⟨h', before ++ job' :: after⟩ := by
  have hkeys : (Crew.mk h' (before ++ job' :: after)).keys =
      (Crew.mk h (before ++ job :: after)).keys := by
    simp only [Crew.keys, List.map_append, List.map_cons, hkey]
  refine ⟨queue ▸ hs.queue, fun key hk => queue ▸ hs.working key (hkeys ▸ hk), hkeys ▸ hs.apart, ?_⟩
  intro other hother
  rcases List.mem_append.mp hother with hother | hother
  · exact hs.aside other (List.mem_append_left _ hother)
  · rcases List.mem_cons.mp hother with rfl | hother
    · exact haside
    · exact hs.aside other (List.mem_append_right _ (List.mem_cons_of_mem _ hother))

/-- One thing that happens to a crew. -/
inductive CrewEvent where
  /-- A worker asks for a key and gets this one. -/
  | delivered (key : Key)
  /-- The work on a key makes a call. -/
  | asked (key : Key) (c : Call)
  /-- The work on a key goes on after a wait. -/
  | rested (key : Key)
  /-- The turn of a key ends, after work with this result. -/
  | finished (key : Key) (result : Except StoreError SyncOutcome)
  /-- Something else happens to the queue, or time passes. -/
  | around (e : QueueEvent)
  /-- Something happens that does not concern the queue. -/
  | elsewhere

/-- One thing that happened, with the queue before and after it. -/
structure CrewTurn where
  event : CrewEvent
  before : WorkQueue
  after : WorkQueue

/-- The event is neither a handing out nor the end of some work: a key is
added, at once or later, a timer goes off, time passes, or the queue is shut
down. -/
def QueueEvent.Around : QueueEvent → Prop
  | .delivered _ | .finished _ => False
  | _ => True

section Crew

variable [Authority σ]

/-- One step of a crew: of one of its jobs, or of what is around it. -/
inductive CrewStep (settings : Settings) : Crew σ → CrewEvent → Crew σ → Prop
  | delivered {h : Hub σ} {jobs : List Job} {key : Key} {queue : WorkQueue}
      (pop : h.queue.pop = (.key key, queue)) :
      CrewStep settings ⟨h, jobs⟩ (.delivered key)
        ⟨{ h with queue := queue }, jobs ++ [⟨key, Runner.sync settings key⟩]⟩
  | asked {h h' : Hub σ} {before after : List Job} {key : Key} {c : Call}
      {next : c.Answer → Program (Except StoreError SyncOutcome)} {a : c.Answer}
      (answers : h.Answers c a h') :
      CrewStep settings ⟨h, before ++ ⟨key, .call c next⟩ :: after⟩ (.asked key c)
        ⟨h', before ++ ⟨key, next a⟩ :: after⟩
  | rested {h : Hub σ} {before after : List Job} {key : Key} {delay : Span}
      {deadline : Option Moment} {next : Bool → Program (Except StoreError SyncOutcome)}
      {slept : Bool} (cut : slept = false → deadline.isSome = true) :
      CrewStep settings ⟨h, before ++ ⟨key, .sleep delay deadline next⟩ :: after⟩ (.rested key)
        ⟨h, before ++ ⟨key, next slept⟩ :: after⟩
  | finished {h h' : Hub σ} {before after : List Job} {key : Key}
      {result : Except StoreError SyncOutcome} {calls : List Call}
      (run : Runs (Runner.conclude settings key result) h calls (.result true) h') :
      CrewStep settings ⟨h, before ++ ⟨key, .done result⟩ :: after⟩ (.finished key result)
        ⟨h', before ++ after⟩
  | around {h h' : Hub σ} {jobs : List Job} {e : QueueEvent} (step : QueueStep h e h')
      (around : e.Around) : CrewStep settings ⟨h, jobs⟩ (.around e) ⟨h', jobs⟩
  | elsewhere {h h' : Hub σ} {jobs : List Job} (queue : h'.queue = h.queue)
      (delayed : h'.delayed = h.delayed) (failures : h'.failures = h.failures) :
      CrewStep settings ⟨h, jobs⟩ .elsewhere ⟨h', jobs⟩

/-- Steps one after another, with the record of what happened. -/
inductive CrewRun (settings : Settings) (start : Crew σ) : List CrewTurn → Crew σ → Prop
  | start : CrewRun settings start [] start
  | step {turns : List CrewTurn} {crew crew' : Crew σ} {e : CrewEvent} :
      CrewRun settings start turns crew → CrewStep settings crew e crew' →
        CrewRun settings start (turns ++ [⟨e, crew.hub.queue, crew'.hub.queue⟩]) crew'

variable {settings : Settings} {crew crew' start : Crew σ} {e : CrewEvent}
variable {turns : List CrewTurn}

/-- A call that concerns neither the queue nor the record of failures leaves
them alone. -/
theorem Hub.Answers.aside {c : Call} {a : c.Answer} (hc : c.Aside) (answers : h.Answers c a h') :
    h'.queue = h.queue ∧ h'.delayed = h.delayed ∧ h'.failures = h.failures := by
  cases answers with
  | drawn => exact ⟨rfl, rfl, rfl⟩
  | shown => exact ⟨rfl, rfl, rfl⟩
  | usual =>
    cases c with
    | add | addAfter | release | failed | settled => exact hc.elim
    | _ => exact ⟨rfl, rfl, rfl⟩

/-- The end of a turn of a key that is not queued again. -/
theorem Runs.of_settled {result : Except StoreError SyncOutcome} {calls : List Call}
    {ending : Hub.Ending Bool}
    (run : Runs (Runner.conclude settings key result) h calls ending h')
    (final : ∀ e, result = .error e → ¬e.isRetryable = true) :
    ending = .result true ∧ h' = h.settled key := by
  rw [Runner.conclude, Runner.afterSync_final final] at run
  obtain ⟨later, -, run⟩ := run.of_decided trivial
  obtain ⟨rest, -, run⟩ := run.of_decided trivial
  obtain ⟨-, rfl, rfl⟩ := run.of_done
  exact ⟨rfl, rfl⟩

/-- The end of a turn of a key that is queued again. -/
theorem Runs.of_requeued {e : StoreError} {calls : List Call} {ending : Hub.Ending Bool}
    (run : Runs (Runner.conclude settings key (.error e)) h calls ending h')
    (hretry : e.isRetryable = true) : ending = .result true ∧
      h' = h.requeued key (Runner.requeueDelay settings (h.failuresOf key)) := by
  rw [Runner.conclude, Runner.afterSync_retry hretry] at run
  obtain ⟨later, -, run⟩ := run.of_decided trivial
  obtain ⟨later', -, run⟩ := run.of_decided trivial
  obtain ⟨later'', -, run⟩ := run.of_decided trivial
  obtain ⟨rest, -, run⟩ := run.of_decided trivial
  obtain ⟨-, rfl, rfl⟩ := run.of_done
  exact ⟨rfl, rfl⟩

theorem Runs.concluded {result : Except StoreError SyncOutcome} {calls : List Call}
    {ending : Hub.Ending Bool}
    (run : Runs (Runner.conclude settings key result) h calls ending h') :
    Concluded key h h' result := by
  by_cases hmends : ∃ e, result = .error e ∧ e.isRetryable = true
  · obtain ⟨e, rfl, hretry⟩ := hmends
    obtain ⟨-, rfl⟩ := run.of_requeued hretry
    exact h.concluded_requeued key _ hretry
  · have final (e : StoreError) (heq : result = .error e) : ¬e.isRetryable = true :=
      fun hretry => hmends ⟨e, heq, hretry⟩
    obtain ⟨-, rfl⟩ := run.of_settled final
    exact .settled final rfl rfl rfl

/-- **Every step keeps a crew sound.** -/
theorem CrewStep.sound (step : CrewStep settings crew e crew') (hs : crew.Sound) : crew'.Sound := by
  cases step with
  | @delivered h jobs key _ pop =>
    obtain ⟨rest, horder, rfl⟩ := WorkQueue.order_of_pop pop
    -- a key that waits is in nobody's hands, so the new job is apart from the others
    have hidle : key ∉ h.queue.processing :=
      hs.queue.not_processing key (horder ▸ List.mem_cons_self)
    have hkeys : (Crew.mk (h.handOut key rest) (jobs ++ [⟨key, Runner.sync settings key⟩])).keys =
        (Crew.mk h jobs).keys ++ [key] := List.map_append
    refine ⟨hs.queue.handedOut horder, fun k hk => ?_, ?_, fun job hjob => ?_⟩
    · rcases List.mem_append.mp (hkeys ▸ hk) with hk | hk
      · exact WorkQueue.mem_withKey.2 (.inr (hs.working k hk))
      · exact WorkQueue.mem_withKey.2 (.inl (List.mem_singleton.mp hk))
    · change (Crew.mk (h.handOut key rest) _).keys.Nodup
      rw [hkeys]
      refine hs.apart.append (List.nodup_singleton key) fun k hk hk' => ?_
      exact hidle (List.mem_singleton.mp hk' ▸ hs.working k hk)
    · rcases List.mem_append.mp hjob with hjob | hjob
      · exact hs.aside job hjob
      · rw [List.mem_singleton.mp hjob]
        exact aside_sync settings key
  | @asked h h' before after key c next a answers =>
    obtain ⟨hc, hnext⟩ : c.Aside ∧ ∀ a, (next a).Uses Call.Aside := hs.job.2
    exact hs.replace (answers.aside hc).1 rfl (hnext a)
  | @rested h before after key delay deadline next slept cut =>
    have hnext : ∀ slept, (next slept).Uses Call.Aside := hs.job.2
    exact hs.replace rfl rfl (hnext slept)
  | @finished h h' before after key result calls run =>
    have hkeys : (Crew.mk h (before ++ ⟨key, .done result⟩ :: after)).keys =
        (before.map Job.key) ++ key :: after.map Job.key := by
      simp only [Crew.keys, List.map_append, List.map_cons]
    have hapart := hs.apart
    rw [hkeys] at hapart
    -- only the job that ended had this key, so it alone lets its key go
    obtain ⟨hgone, hrest⟩ := List.nodup_cons.mp (List.nodup_middle.mp hapart)
    have hkeys' : (Crew.mk h' (before ++ after)).keys = before.map Job.key ++ after.map Job.key :=
      List.map_append
    refine ⟨run.concluded.sound hs.queue, fun k hk => ?_, hkeys' ▸ hrest, fun job hjob => ?_⟩
    · rw [hkeys'] at hk
      refine run.concluded.mem_processing (hs.working k ?_) fun heq => hgone (heq ▸ hk)
      rw [hkeys]
      exact (List.mem_append.mp hk).elim (List.mem_append_left _) fun hk =>
        List.mem_append_right _ (List.mem_cons_of_mem _ hk)
    · rcases List.mem_append.mp hjob with hjob | hjob
      · exact hs.aside job (List.mem_append_left _ hjob)
      · exact hs.aside job (List.mem_append_right _ (List.mem_cons_of_mem _ hjob))
  | around step around =>
    refine ⟨step.sound hs.queue, fun k hk => ?_, hs.apart, hs.aside⟩
    refine step.mem_processing (hs.working k hk) ?_
    rintro rfl
    exact around
  | elsewhere queue =>
    exact ⟨queue ▸ hs.queue, fun k hk => queue ▸ hs.working k hk, hs.apart, hs.aside⟩

/-! ## Until when a key is awaited -/

omit [Authority σ] in
/-- What is around a crew keeps a key awaited, but for what a full queue
drops and for the shutdown. -/
theorem QueueStep.awaits_or {e : QueueEvent} (step : QueueStep h e h') (hs : h.queue.Sound)
    (around : e.Around) (hk : h.Awaits k) :
    h'.Awaits k ∨ h.queue.Drops h'.queue k ∨ h'.queue.closed = true := by
  rcases hk with hk | ⟨d, hd, hkey⟩
  · obtain hk | released := step.pending_or_released hs hk
    · exact .inl (.inl hk)
    · cases released with
      | delivered => exact around.elim
      | dropped drops => exact .inr (.inl drops)
      | discarded => exact around.elim
  · cases step with
    | @wentOff d' waits due =>
      by_cases hgone : d = d'
      · -- the timer of the key itself goes off, which adds the key to an open queue
        subst hgone
        cases hclosed : h.queue.closed with
        | true => exact .inr (.inr ((WorkQueue.add_closed _ _).trans hclosed))
        | false => exact .inl (.inl (hkey ▸ WorkQueue.pending_add hs hclosed d.key))
      · exact .inl (.inr ⟨d, (List.mem_erase_of_ne hgone).mpr hd, hkey⟩)
    | deferred key delay =>
      refine .inl (.inr ⟨d, ?_, hkey⟩)
      obtain heq | ⟨d', -, heq⟩ := h.addAfter_cases key delay <;> rw [heq]
      · exact hd
      · exact List.mem_append_left _ hd
    | _ => exact .inl (.inr ⟨d, hd, hkey⟩)

/-- **A step keeps a key awaited**, unless it hands the key out, a full queue
drops it, or the queue is shut down. -/
theorem CrewStep.awaits_or (step : CrewStep settings crew e crew') (hs : crew.Sound)
    (hk : crew.hub.Awaits k) (hkept : e ≠ .delivered k) :
    crew'.hub.Awaits k ∨ crew.hub.queue.Drops crew'.hub.queue k ∨
      crew'.hub.queue.closed = true := by
  have hsame {h h' : Hub σ} (queue : h'.queue = h.queue) (delayed : h'.delayed = h.delayed)
      (hk : h.Awaits k) : h'.Awaits k := by
    rwa [Hub.Awaits, queue, delayed]
  cases step with
  | @delivered h jobs key _ pop =>
    obtain ⟨rest, horder, rfl⟩ := WorkQueue.order_of_pop pop
    have hne : k ≠ key := fun heq => hkept (heq ▸ rfl)
    exact .inl (hk.imp_left fun hk => WorkQueue.pending_handedOut horder hk hne)
  | @asked h h' before after key c next a answers =>
    have hc : c.Aside := hs.job.2.1
    obtain ⟨queue, delayed, -⟩ := answers.aside hc
    exact .inl (hsame queue delayed hk)
  | rested => exact .inl hk
  | @finished h h' before after key result calls run =>
    exact run.concluded.awaits_or hs.queue hs.job.1 hk
  | around step around => exact step.awaits_or hs.queue around hk
  | elsewhere queue delayed => exact .inl (hsame queue delayed hk)

/-- A queue that was shut down stays so. -/
theorem CrewStep.closed (step : CrewStep settings crew e crew') (hs : crew.Sound)
    (hclosed : crew.hub.queue.closed = true) : crew'.hub.queue.closed = true := by
  cases step with
  | delivered pop =>
    obtain ⟨rest, -, rfl⟩ := WorkQueue.order_of_pop pop
    exact hclosed
  | @asked h h' before after key c next a answers =>
    have hc : c.Aside := hs.job.2.1
    exact (answers.aside hc).1 ▸ hclosed
  | rested => exact hclosed
  | finished run => exact run.concluded.closed.trans hclosed
  | around step around => exact step.closed hclosed
  | elsewhere queue => exact queue ▸ hclosed

theorem CrewRun.sound (run : CrewRun settings start turns crew) (hs : start.Sound) :
    crew.Sound := by
  induction run with
  | start => exact hs
  | step _ step ih => exact step.sound ih

/-- The last turn of a key failed in a way that may mend, and the key was
not handed out since: what happened since is this. -/
def FailedBefore (turns : List CrewTurn) (key : Key) (since : List CrewTurn) : Prop :=
  ∃ (earlier : List CrewTurn) (t : CrewTurn) (e : StoreError),
    turns = earlier ++ t :: since ∧ t.event = .finished key (.error e) ∧ e.isRetryable = true ∧
      ∀ t' ∈ since, t'.event ≠ .delivered key

/-- **A key that failed is awaited** up to its next turn, unless a full queue
has dropped it since or the queue is shut down. -/
theorem CrewRun.awaits (run : CrewRun settings start turns crew) (hs : start.Sound)
    {since : List CrewTurn} (failed : FailedBefore turns key since) :
    crew.hub.Awaits key ∨ (∃ t ∈ since, t.before.Drops t.after key) ∨
      crew.hub.queue.closed = true := by
  induction run generalizing since with
  | start =>
    obtain ⟨earlier, t, e, heq, -⟩ := failed
    simp at heq
  | @step turns crew crew' event run step ih =>
    have hcrew : crew.Sound := run.sound hs
    obtain ⟨earlier, t, e, heq, hended, hretry, hkept⟩ := failed
    obtain ⟨rfl, rfl, rfl⟩ | ⟨later, rfl, rfl⟩ := split_snoc heq
    · -- the failed turn is the last thing that happened
      obtain rfl : event = .finished key (.error e) := hended
      cases step with
      | @finished h h' before after _ _ calls ends =>
        exact (ends.concluded.awaits hretry hcrew.queue hcrew.job.1).imp_right .inr
    · have hlast : event ≠ .delivered key :=
        hkept _ (List.mem_append_right _ (List.mem_singleton.mpr rfl))
      have hbefore : FailedBefore (earlier ++ t :: later) key later :=
        ⟨earlier, t, e, rfl, hended, hretry, fun t' ht' => hkept t' (List.mem_append_left _ ht')⟩
      rcases ih hbefore with hk | ⟨t', ht', hdrops⟩ | hclosed
      · rcases step.awaits_or hcrew hk hlast with hk | hdrops | hclosed
        · exact .inl hk
        · exact .inr (.inl ⟨_, List.mem_append_right _ (List.mem_singleton.mpr rfl), hdrops⟩)
        · exact .inr (.inr hclosed)
      · exact .inr (.inl ⟨t', List.mem_append_left _ ht', hdrops⟩)
      · exact .inr (.inr (step.closed hcrew hclosed))

/-! ## The record of failures -/

/-- The result of the work on a key, if its turn ended. -/
def CrewTurn.result? (key : Key) (t : CrewTurn) : Option (Except StoreError SyncOutcome) :=
  match t.event with
  | .finished k result => if k = key then some result else none
  | _ => none

/-- The result of the work on a key in its turn that ended last. -/
def lastResult (key : Key) (turns : List CrewTurn) : Option (Except StoreError SyncOutcome) :=
  (turns.filterMap (CrewTurn.result? key)).getLast?

/-- A result that has the key queued again: an error that may mend. -/
def MayMend (result : Except StoreError SyncOutcome) : Prop :=
  ∃ e, result = .error e ∧ e.isRetryable = true

theorem lastResult_snoc (key : Key) (turns : List CrewTurn) (t : CrewTurn) :
    lastResult key (turns ++ [t]) = (t.result? key).or (lastResult key turns) := by
  unfold lastResult
  rw [List.filterMap_append, List.getLast?_append]
  cases hresult : t.result? key with
  | none => simp [hresult]
  | some result => simp [hresult]

omit [Authority σ] in
theorem Hub.mem_forgetFailures : k ∈ (h.forgetFailures key).failures.map Prod.fst ↔
    k ≠ key ∧ k ∈ h.failures.map Prod.fst := by
  simp only [Hub.forgetFailures, List.mem_map, List.mem_filter, decide_not, Bool.not_eq_true',
    decide_eq_false_iff_not]
  constructor
  · rintro ⟨p, ⟨hp, hne⟩, rfl⟩
    exact ⟨hne, p, hp, rfl⟩
  · rintro ⟨hne, p, hp, rfl⟩
    exact ⟨p, ⟨hp, hne⟩, rfl⟩

omit [Authority σ] in
/-- **The end of a turn records its key** exactly if the failure may mend,
and no other key. -/
theorem Concluded.mem_failures {result : Except StoreError SyncOutcome}
    (concluded : Concluded key h h' result) (k : Key) :
    k ∈ h'.failures.map Prod.fst ↔
      (k = key ∧ MayMend result) ∨ (k ≠ key ∧ k ∈ h.failures.map Prod.fst) := by
  cases concluded with
  | settled final queue delayed failures =>
    rw [failures, Hub.mem_forgetFailures, iff_or_self]
    rintro ⟨-, e, heq, hretry⟩
    exact absurd hretry (final e heq)
  | @again e retry failures added =>
    have hmends : MayMend (.error e) := ⟨e, rfl, retry⟩
    rw [failures, Hub.noteFailure]
    change k ∈ key :: (h.forgetFailures key).failures.map Prod.fst ↔ _
    rw [List.mem_cons, Hub.mem_forgetFailures, and_iff_left hmends]

/-- What is no end of a turn leaves the record of failures alone. -/
theorem CrewStep.failures (step : CrewStep settings crew e crew') (hs : crew.Sound)
    (hopen : ∀ key result, e ≠ .finished key result) :
    crew'.hub.failures = crew.hub.failures := by
  cases step with
  | delivered => rfl
  | @asked h h' before after key c next a answers =>
    have hc : c.Aside := hs.job.2.1
    exact (answers.aside hc).2.2
  | rested => rfl
  | finished => exact absurd rfl (hopen _ _)
  | @around h h' jobs e step around =>
    cases step with
    | deferred key delay =>
      obtain heq | ⟨d, -, heq⟩ := h.addAfter_cases key delay <;> exact heq ▸ rfl
    | _ => rfl
  | elsewhere queue delayed failures => exact failures

/-- **The record of failures** holds exactly the keys whose last turn failed
in a way that may mend. -/
theorem CrewRun.mem_failures (run : CrewRun settings start turns crew) (hs : start.Sound)
    (hstart : start.hub.failures = []) (key : Key) :
    key ∈ crew.hub.failures.map Prod.fst ↔ ∃ result ∈ lastResult key turns, MayMend result := by
  induction run with
  | start => simp [hstart, lastResult]
  | @step turns crew crew' event run step ih =>
    have hcrew : crew.Sound := run.sound hs
    rw [lastResult_snoc]
    -- the end of a turn is the only thing that touches the record, and the only one with a result
    by_cases hended : ∃ k result, event = .finished k result
    · obtain ⟨k, result, rfl⟩ := hended
      have hconcluded : Concluded k crew.hub crew'.hub result := by
        cases step with
        | finished ends => exact ends.concluded
      rw [hconcluded.mem_failures, ih]
      by_cases hkey : k = key
      · simp [CrewTurn.result?, hkey]
      · simp [CrewTurn.result?, hkey, Ne.symm hkey]
    · have hopen : ∀ k result, event ≠ .finished k result :=
        fun k result heq => hended ⟨k, result, heq⟩
      have hnone : CrewTurn.result? key ⟨event, crew.hub.queue, crew'.hub.queue⟩ = none := by
        unfold CrewTurn.result?
        split
        · rename_i heq
          exact absurd heq (hopen _ _)
        · rfl
      rw [step.failures hcrew hopen, ih, hnone, Option.none_or]

/-! ## Failures are redelivered -/

/-- **Every failure that may mend is redelivered.** A turn of the runner is
the work on the key it is given and what concludes it, and however the turns
of a crew interleave with one another, with additions, timers, faults and
changes elsewhere: a key whose last turn failed in a way that may mend, and
that was not handed out since, has a timer, or waits, or is marked, unless
since then a full queue has dropped and counted it or the queue is shut down.
And the record of failures holds the keys whose last turn that ended failed
so, and no others. -/
theorem failures_are_redelivered {store : σ} {capacity : Nat} {calendar : Instant}
    (run : CrewRun settings ⟨Hub.start store capacity calendar, []⟩ turns crew) :
    (Runner.processNext settings = take fun
      | none => done false
      | some key => (Runner.sync settings key).bind (Runner.conclude settings key)) ∧
    (∀ (key : Key) (since : List CrewTurn), FailedBefore turns key since →
      (∃ d ∈ crew.hub.delayed, d.key = key) ∨ key ∈ crew.hub.queue.queued ∨
        key ∈ crew.hub.queue.dirty ∨ (∃ t ∈ since, t.before.Drops t.after key) ∨
          crew.hub.queue.closed = true) ∧
      ∀ key, key ∈ crew.hub.failures.map Prod.fst ↔
        ∃ result ∈ lastResult key turns, MayMend result := by
  have hstart := Crew.sound_start store capacity calendar
  refine ⟨processNext_eq settings, fun key since failed => ?_, run.mem_failures hstart rfl⟩
  have hs : crew.Sound := run.sound hstart
  rcases run.awaits hstart failed with ((hwait | hmark) | htimer) | hdrops | hclosed
  · exact .inr (.inl ((hs.queue.mem_queued key).2 hwait))
  · exact .inr (.inr (.inl hmark))
  · exact .inl htimer
  · exact .inr (.inr (.inr (.inl hdrops)))
  · exact .inr (.inr (.inr (.inr hclosed)))

/-! ## At once -/

/-- A job may get on alone. -/
theorem CrewRun.advance {before after : List Job} {p : Program (Except StoreError SyncOutcome)}
    (run : CrewRun settings start turns ⟨h, before ++ ⟨key, p⟩ :: after⟩) (n : Nat) :
    ∃ later, CrewRun settings start (turns ++ later)
      ⟨(p.advance n h).2, before ++ ⟨key, (p.advance n h).1⟩ :: after⟩ := by
  refine Program.advance_keeps (motive := fun q k => ∃ later, CrewRun settings start
    (turns ++ later) ⟨k, before ++ ⟨key, q⟩ :: after⟩) ?_ ?_ ⟨[], by rwa [List.append_nil]⟩ n
  · rintro c next k ⟨later, run'⟩
    exact ⟨_, List.append_assoc .. ▸ run'.step (.asked (.usual c k))⟩
  · rintro delay deadline next k ⟨later, run'⟩
    have hcut : true = false → deadline.isSome = true := fun heq => nomatch heq
    exact ⟨_, List.append_assoc .. ▸ run'.step (.rested hcut)⟩

end Crew

namespace Redelivery

/-- Settings under which a key that failed is added again at once. -/
def atOnce : Settings := { Settings.standard with requeueBase := Span.zero }

/-- A hub over a store with a set, whose next read fails in a way that may
mend. -/
def hub : Hub MemoryStore :=
  let set : Resource := ⟨⟨"a", none, none, none, [], none⟩, []⟩
  Hub.start ((MemoryStore.empty.put .set set).2.plantReadFault (.transient "slow")) 1 Instant.epoch

/-- The hub after the key of the set was added and handed out. -/
def given : Hub MemoryStore := (hub.add Release.setKey).handOut Release.setKey []

/-- The work on the key up to its result. -/
def worked : Program (Except StoreError SyncOutcome) × Hub MemoryStore :=
  (Runner.sync atOnce Release.setKey).advance 8 given

end Redelivery

open Redelivery in
/-- Where there is no delay, the key is added while it is still worked on,
and waits when its turn is over. -/
theorem failures_are_redelivered_at_once : ∃ turns crew,
    CrewRun atOnce ⟨hub, []⟩ turns crew ∧ FailedBefore turns Release.setKey [] ∧
      crew.hub.delayed = [] ∧ Release.setKey ∈ crew.hub.queue.queued ∧
      ∃ result ∈ lastResult Release.setKey turns, MayMend result := by
  have begun : CrewRun atOnce ⟨hub, []⟩ [] ⟨hub, []⟩ := .start
  have taken := begun
    |>.step (.around (.added _ Release.setKey) trivial)
    |>.step (.delivered (rfl : _ = (WorkQueue.Delivery.key Release.setKey, given.queue)))
  obtain ⟨later, working⟩ := taken.advance 8
  have hresult : worked.1 = .done (.error (.transient "slow")) := rfl
  change CrewRun atOnce ⟨hub, []⟩ _ ⟨worked.2, [] ++ ⟨Release.setKey, worked.1⟩ :: []⟩ at working
  rw [hresult] at working
  -- what follows the result runs alone up to the release of the key
  obtain ⟨calls, ends⟩ := Runs.of_runAlone
    (Runner.conclude atOnce Release.setKey (.error (.transient "slow"))) worked.2
  have run := working.step (.finished ends)
  have failed (turns : List CrewTurn) (q q' : WorkQueue) : FailedBefore
      (turns ++ [⟨.finished Release.setKey (.error (.transient "slow")), q, q'⟩])
      Release.setKey [] :=
    ⟨turns, _, .transient "slow", rfl, rfl, rfl, fun t ht => nomatch ht⟩
  obtain ⟨-, redelivered, recorded⟩ := failures_are_redelivered run
  refine ⟨_, _, run, failed .., rfl, ?_, (recorded Release.setKey).mp (by decide +kernel)⟩
  rcases redelivered Release.setKey [] (failed ..) with
    ⟨d, hd, -⟩ | hwait | hmark | ⟨t, ht, -⟩ | hclosed
  · cases hd
  · exact hwait
  · cases hmark
  · cases ht
  · cases hclosed

end ClusterFleet
