import ClusterFleet.Proofs.Hub.Breaks
import ClusterFleet.Proofs.Queue.Kept
import ClusterFleet.Proofs.Sync.Turn

/-!
# Sync — when a key is let go of

A turn takes a key from the queue and lets go of it in the end, unless it
is broken off on the way. Two additions break it off: that of the time
limit to the clock, and that of a microsecond to the time of a stored
condition (`Oversteps`). `breaks_processNext` says that nothing else does,
whatever the store, the cache and the settings hold, and `let_go_iff` what
becomes of the key: it is handed out again when it is added again, or it
stays in the hands of nobody who works.
-/

namespace ClusterFleet

open MemoryStore StatusUpdate Program Hub

/-- The time limit of the work reaches beyond the range of the clock. -/
def OutlastsClock (settings : Settings) (clock : Moment) : Prop :=
  ∃ span ∈ settings.syncTimeout, clock.after? span = none

/-- The status of a live set cannot be brought up to date, since the time
of its condition would lie beyond the calendar. -/
def OutlastsCalendar (key : Key) (h : Hub MemoryStore) : Prop :=
  key.ns = none ∧ h.store.readFaults = [] ∧ ∃ set ∈ h.store.object? .set key,
    set.isDeleting = false ∧ Condition.set (ClusterSet.emptyCondition
      (h.store.labelled set.name).length h.readCalendar.1) set.conditions = none

/-- **The work on a key oversteps**: the clock or the calendar ends before
it does. -/
def Oversteps (settings : Settings) (key : Key) (h : Hub MemoryStore) : Prop :=
  OutlastsClock settings h.clock ∨ OutlastsCalendar key h

instance (settings : Settings) (clock : Moment) : Decidable (OutlastsClock settings clock) :=
  inferInstanceAs (Decidable (∃ span ∈ settings.syncTimeout, clock.after? span = none))

instance (key : Key) (h : Hub MemoryStore) : Decidable (OutlastsCalendar key h) :=
  inferInstanceAs (Decidable (_ ∧ _ = _ ∧ ∃ set ∈ _, _ ∧ _ = none))

instance (settings : Settings) (key : Key) (h : Hub MemoryStore) :
    Decidable (Oversteps settings key h) := inferInstanceAs (Decidable (_ ∨ _))

variable {h : Hub MemoryStore} {key : Key} {settings : Settings}

/-! ## What breaks it off -/

/-- A read where no fault is planted finds what is stored. -/
theorem get_of_no_fault (hs : h.store.Sound) (hfaults : h.store.readFaults = []) (kind : Kind)
    (key : Key) : (h.store.get kind key).1 = .ok (h.store.object? kind key) ∧
      (h.store.get kind key).2.readFaults = [] := by
  rw [hs.get_eq hfaults]
  exact ⟨rfl, hfaults⟩

/-- **An update** that finds the object is broken off where its mutations
run past the calendar. -/
theorem breaks_ofJob {job : UpdateJob} {stored : Resource} (hs : h.store.Sound)
    (hfaults : h.store.readFaults = []) (found : h.store.object? job.kind job.key = some stored) :
    Breaks (ofJob job) h ↔
      Mutation.applyAll job.mutations stored.conditions = .error .beyondCalendar := by
  constructor
  · -- of all the ends of an update only this one is no result
    intro hbreaks
    obtain ⟨calls, run⟩ := Runs.of_runAlone (ofJob job) h
    rw [hbreaks] at run
    cases run_ends hs run with
    | aborted same found' refuses =>
      obtain rfl := Option.some.inj (found.symm.trans found')
      exact refuses
  · intro hbeyond
    have hread : (h.store.get job.kind job.key).1 = .ok (some stored) := by
      rw [(get_of_no_fault hs hfaults job.kind job.key).1, found]
    change Breaks (Position.attemptsFrom job 1 (job.policy.attempts - 1)) h
    rw [Position.attemptsFrom_eq]
    change Breaks ((Position.ofRead job 1 _ (h.store.get job.kind job.key).1).program job) _
    rw [hread, Position.ofRead, hbeyond]
    rfl

/-- Telling events changes nothing but what was told. -/
theorem runAlone_records (events : List Event) (h : Hub MemoryStore) :
    runAlone (each (fun event => ask (.record event)) events) h =
      (.result (), { h with events := h.events ++ events }) := by
  induction events generalizing h with
  | nil => rw [List.append_nil]; rfl
  | cons event rest ih =>
    have hrest := ih { h with events := h.events ++ [event] }
    rw [List.append_assoc] at hrest
    exact hrest

/-- **Bringing up to date a set that was found** is broken off where its
condition runs past the calendar. -/
theorem breaks_refresh {prune : Bool} {policy : RetryPolicy} {deadline : Option Moment}
    {set : Resource} {members : List Resource} (hs : h.store.Sound)
    (hfaults : h.store.readFaults = []) (found : h.store.object? .set key = some set) :
    Breaks (ClusterSet.refresh prune policy deadline key set members) h ↔
      Condition.set (ClusterSet.emptyCondition (ClusterSet.selection set members).length
        h.readCalendar.1) set.conditions = none := by
  let n := (ClusterSet.selection set members).length
  let churn := h.cache.rebuild set.name (ClusterSet.selection set members) prune
  let mid : Hub MemoryStore := { h with
    cache := churn.2, events := h.events ++ ClusterSet.churnEvents set.name churn.1 prune
    calendar := h.readCalendar.1 }
  have hthen : Breaks (ClusterSet.refresh prune policy deadline key set members) h ↔
      Breaks (publishThen key n h.readCalendar.1 policy deadline churn.1) mid := by
    change (runAlone ((each _ _).bind _) _).1 = _ ↔ _
    rw [runAlone_bind, runAlone_records]
    rfl
  refine hthen.trans ((breaks_bind_whole fun result => by cases result <;> trivial).trans ?_)
  have hfound : mid.store.object? .set key = some set := found
  rw [breaks_ofJob (h := mid) hs hfaults hfound, publishing, applyAll_set]
  cases Condition.set (ClusterSet.emptyCondition n h.readCalendar.1) set.conditions with
  | none => exact iff_of_true rfl rfl
  | some changed => exact iff_of_false (by rintro ⟨⟩) (by rintro ⟨⟩)

/-- What is done with the set that was looked up. -/
def afterLookup (prune : Bool) (policy : RetryPolicy) (deadline : Option Moment) (key : Key) :
    Except StoreError (Option Resource) → Program (Except StoreError SyncOutcome)
  | .error e => done (.error e)
  | .ok none => done (.ok .missing)
  | .ok (some set) =>
    if set.isDeleting then done (.ok .deleting) else listThen prune policy deadline key set

section Sync

variable {prune : Bool} {policy : RetryPolicy} {deadline : Option Moment}

theorem bringUpToDate_eq (hns : key.ns = none) :
    ClusterSet.bringUpToDate prune policy deadline key =
      call (.get .set key) (afterLookup prune policy deadline key) := by
  unfold ClusterSet.bringUpToDate
  rw [hns]
  refine congrArg (call (.get .set key)) (funext fun found => ?_)
  rcases found with e | _ | set <;> rfl

/-- **Listing the members** and bringing a set up to date, where no fault is
planted. -/
theorem breaks_listThen {set : Resource} (hs : h.store.Sound) (hfaults : h.store.readFaults = [])
    (found : h.store.object? .set key = some set) :
    Breaks (listThen prune policy deadline key set) h ↔
      Condition.set (ClusterSet.emptyCondition (h.store.labelled set.name).length
        h.readCalendar.1) set.conditions = none := by
  obtain ⟨hsame, ⟨fault, hfault, -⟩ | hlist⟩ := hs.list_cases .member
  · rw [hfaults] at hfault
    cases hfault
  let mid : Hub MemoryStore := { h with store := (h.store.list .member).2 }
  have hmid : mid.store.readFaults = [] := List.suffix_nil.1 (hfaults ▸ hsame.readFaults)
  have hfound : mid.store.object? .set key = some set := (hsame.object? .set key).trans found
  have hanswer : h.answer (.list .member) = ((.ok (Key.sortBy Resource.key
      (h.store.objects .member)) : Except StoreError (List Resource)), mid) := Prod.ext hlist rfl
  rw [listThen, breaks_call, hanswer]
  refine (breaks_refresh (hsame.sound hs) hmid hfound).trans ?_
  rw [← length_selected]
  rfl

/-- **Bringing the set of a key up to date** is broken off where it outlasts
the calendar. A fault that is planted for a read meets the first one, and
ends the work before the status is touched. -/
theorem breaks_bringUpToDate (hs : h.store.Sound) :
    Breaks (ClusterSet.bringUpToDate prune policy deadline key) h ↔ OutlastsCalendar key h := by
  -- in the order of the checks: whatever ends the work before the update breaks nothing off
  cases hns : key.ns with
  | some ns =>
    refine iff_of_false ?_ fun outlasts => nomatch hns.symm.trans outlasts.1
    unfold ClusterSet.bringUpToDate
    rw [hns]
    exact fun heq => nomatch heq
  | none =>
    rw [bringUpToDate_eq hns]
    change Breaks (afterLookup prune policy deadline key (h.store.get .set key).1)
      { h with store := (h.store.get .set key).2 } ↔ _
    cases hfaults : h.store.readFaults with
    | cons fault later =>
      rw [get_of_fault hfaults]
      exact iff_of_false (fun heq => nomatch heq) fun outlasts =>
        nomatch hfaults.symm.trans outlasts.2.1
    | nil =>
      have hsame := (hs.get_cases .set key).1
      obtain ⟨hget, hnone⟩ := get_of_no_fault hs hfaults .set key
      rw [hget]
      cases hobject : h.store.object? .set key with
      | none =>
        refine iff_of_false (fun heq => nomatch heq) fun ⟨_, _, set, hset, _⟩ => ?_
        cases hset.symm.trans hobject
      | some set =>
        by_cases hdeleting : set.isDeleting = true
        · rw [afterLookup, if_pos hdeleting]
          refine iff_of_false (fun heq => nomatch heq) fun ⟨_, _, set', hset, hlive, _⟩ => ?_
          obtain rfl := Option.some.inj (hset.symm.trans hobject)
          rw [hdeleting] at hlive
          cases hlive
        rw [afterLookup, if_neg hdeleting]
        rw [breaks_listThen (hsame.sound hs) hnone ((hsame.object? .set key).trans hobject),
          labelled_of_consulted hsame]
        constructor
        · exact fun hbeyond =>
            ⟨hns, hfaults, set, hobject, Bool.eq_false_iff.2 hdeleting, hbeyond⟩
        · rintro ⟨_, _, set', hset, _, hbeyond⟩
          obtain rfl := Option.some.inj (hset.symm.trans hobject)
          exact hbeyond

end Sync

/-- What follows a reconciliation is never broken off. -/
theorem whole_afterSync (settings : Settings) (key : Key)
    (result : Except StoreError SyncOutcome) : (Runner.afterSync settings key result).Whole := by
  cases result with
  | ok outcome => exact fun _ => trivial
  | error e =>
    by_cases hretry : e.isRetryable = true
    · rw [Runner.afterSync_retry hretry]
      exact fun _ _ _ => trivial
    · rw [Runner.afterSync_final fun e' heq => Except.error.inj heq ▸ hretry]
      exact fun _ => trivial

/-- Work under a time limit is broken off where the clock ends before the
limit, and where the work is. -/
theorem breaks_withDeadline {α : Type} {work : Option Moment → Program α} {outlasts : Prop}
    (hwork : ∀ deadline, Breaks (work deadline) h ↔ outlasts) (timeout : Option Span) :
    Breaks (Runner.withDeadline timeout work) h ↔
      (∃ span ∈ timeout, h.clock.after? span = none) ∨ outlasts := by
  cases timeout with
  | none => simp only [Runner.withDeadline, hwork, Option.mem_def, reduceCtorEq, false_and,
      exists_false, false_or]
  | some span =>
    rw [Runner.withDeadline]
    refine breaks_call.trans ?_
    simp only [Hub.answer, Option.mem_def, Option.some.injEq, exists_eq_left']
    cases h.clock.after? span with
    | none => exact iff_of_true rfl (.inl rfl)
    | some deadline => exact (hwork _).trans (or_iff_right (by rintro ⟨⟩)).symm

/-- **A turn is broken off** exactly where the work on its key oversteps. -/
theorem breaks_processNext {rest : List Key} (hs : h.store.Sound)
    (horder : h.queue.order = key :: rest) :
    Breaks (Runner.processNext settings) h ↔ Oversteps settings key h := by
  let out := h.handOut key rest
  have hwork (deadline : Option Moment) :
      Breaks (workOn settings key deadline) out ↔ OutlastsCalendar key h := by
    refine (breaks_bind_whole fun result => ?_).trans ?_
    · exact (whole_afterSync settings key result).bind fun _ _ => trivial
    refine (breaks_bind_whole fun result => ?_).trans (breaks_bringUpToDate hs)
    cases result with
    | ok outcome => exact fun _ => trivial
    | error e => exact fun _ _ => trivial
  have htake : Breaks (Runner.processNext settings) h ↔
      Breaks (Runner.withDeadline settings.syncTimeout (workOn settings key)) out := by
    unfold Breaks Runner.processNext
    rw [runAlone, WorkQueue.pop_of_order horder]
    rfl
  exact htake.trans (breaks_withDeadline hwork settings.syncTimeout)

/-! ## Who has the key -/

/-- A call that lets go of no key. -/
def Call.Keeps (c : Call) : Prop := ∀ key, c ≠ .release key

/-- A call that concerns neither the queue nor the record of failures. -/
def Call.Aside : Call → Prop
  | .add _ | .addAfter .. | .release _ | .failed _ | .settled _ => False
  | _ => True

theorem Call.Aside.keeps {c : Call} (hc : c.Aside) : c.Keeps := by
  rintro key rfl
  exact hc

/-- The queue stays sound, and nobody gets or lets go of a key. -/
structure Hub.SameHands (h h' : Hub MemoryStore) : Prop where
  sound : h'.queue.Sound
  processing : h'.queue.processing = h.queue.processing

theorem Hub.SameHands.trans {h' h'' : Hub MemoryStore} (same : h.SameHands h')
    (same' : h'.SameHands h'') : h.SameHands h'' :=
  ⟨same'.sound, same'.processing.trans same.processing⟩

theorem Hub.SameHands.add (hq : h.queue.Sound) (key : Key) : h.SameHands (h.add key) :=
  ⟨hq.add key, WorkQueue.add_processing _ _⟩

theorem Hub.SameHands.of_queue {h' : Hub MemoryStore} (hq : h.queue.Sound)
    (hqueue : h'.queue = h.queue) : h.SameHands h' := ⟨hqueue ▸ hq, by rw [hqueue]⟩

theorem Hub.Passes.sameHands {h' : Hub MemoryStore} (hq : h.queue.Sound) (passes : h.Passes h') :
    h.SameHands h' := by
  induction passes with
  | rest => exact .of_queue hq rfl
  | goesOn _ _ ih => exact ih.trans (.of_queue ih.sound rfl)
  | wentOff _ _ _ ih => exact ih.trans ⟨ih.sound.add _, WorkQueue.add_processing _ _⟩

theorem Hub.Answers.sameHands {c : Call} {a : c.Answer} {h' : Hub MemoryStore} (hc : c.Keeps)
    (hq : h.queue.Sound) (answers : h.Answers c a h') : h.SameHands h' := by
  cases answers with
  | drawn => exact .of_queue hq rfl
  | shown => exact .of_queue hq rfl
  | usual =>
    cases c with
    | release key => exact absurd rfl (hc key)
    | add key => exact .add hq key
    | addAfter key delay =>
      obtain heq | heq := queue_addAfter h key delay
      · exact .of_queue hq heq
      · exact (Hub.SameHands.add hq key).trans (.of_queue (hq.add key) heq)
    | _ => exact .of_queue hq rfl

section Sync

variable {prune : Bool} {policy : RetryPolicy} {deadline : Option Moment}

theorem aside_ofJob (job : UpdateJob) : (ofJob job).Uses Call.Aside := by
  refine (uses_attemptsFrom job 1 _).mono fun c hc => ?_
  cases hc <;> trivial

theorem aside_refresh (set : Resource) (members : List Resource) :
    (ClusterSet.refresh prune policy deadline key set members).Uses Call.Aside := by
  have hrecord (event : Event) : (ask (.record event)).Uses Call.Aside :=
    ⟨trivial, fun _ => trivial⟩
  refine ⟨trivial, fun churn => (uses_each hrecord _).bind fun _ => ?_⟩
  refine ⟨trivial, fun now => ?_⟩
  refine Uses.bind (aside_ofJob (publishing key _ now policy deadline)) fun result => ?_
  cases result <;> trivial

theorem aside_listThen (set : Resource) :
    (listThen prune policy deadline key set).Uses Call.Aside := by
  refine ⟨trivial, fun listed => ?_⟩
  cases listed with
  | error e => trivial
  | ok members => exact aside_refresh set members

theorem aside_bringUpToDate :
    (ClusterSet.bringUpToDate prune policy deadline key).Uses Call.Aside := by
  cases hns : key.ns with
  | some ns =>
    unfold ClusterSet.bringUpToDate
    rw [hns]
    trivial
  | none =>
    rw [bringUpToDate_eq hns]
    refine ⟨trivial, fun found => ?_⟩
    rcases found with e | _ | set
    · trivial
    · trivial
    · by_cases hdeleting : set.isDeleting = true
      · rw [afterLookup, if_pos hdeleting]
        trivial
      · rw [afterLookup, if_neg hdeleting]
        exact aside_listThen set

/-- **A reconciliation** concerns neither the queue nor the record of
failures. -/
theorem aside_reconcile :
    (ClusterSet.reconcile prune policy deadline key).Uses Call.Aside := by
  refine ⟨trivial, fun _ => aside_bringUpToDate.bind fun result => ?_⟩
  refine ⟨trivial, fun _ => ?_⟩
  cases result with
  | ok outcome => trivial
  | error e => exact ⟨trivial, fun _ => trivial⟩

/-- **A reconciliation** lets go of no key. -/
theorem keeps_reconcile : (ClusterSet.reconcile prune policy deadline key).Uses Call.Keeps :=
  aside_reconcile.mono fun _ => Call.Aside.keeps

end Sync

theorem keeps_afterSync (result : Except StoreError SyncOutcome) :
    (Runner.afterSync settings key result).Uses Call.Keeps := by
  cases result with
  | ok outcome => exact ⟨fun _ => nofun, fun _ => trivial⟩
  | error e =>
    by_cases hretry : e.isRetryable = true
    · rw [Runner.afterSync_retry hretry]
      exact ⟨fun _ => nofun, fun _ => ⟨fun _ => nofun, fun _ => ⟨fun _ => nofun, fun _ => trivial⟩⟩⟩
    · rw [Runner.afterSync_final fun e' heq => Except.error.inj heq ▸ hretry]
      exact ⟨fun _ => nofun, fun _ => trivial⟩

section Hands

variable {α : Type} {p : Program α} {h' : Hub MemoryStore} {calls : List Call}
variable {ending : Hub.Ending α}

theorem Runs.sameHands (hp : p.Uses Call.Keeps) (hq : h.queue.Sound)
    (run : Runs p h calls ending h') : h.SameHands h' ∧ ending ≠ .stuck := by
  have hrefl : h.SameHands h := .of_queue hq rfl
  obtain ⟨hsame, -, hending⟩ := Runs.frame hrefl
    (fun hc answers same => same.trans (answers.sameHands hc same.sound))
    (fun passes same => same.trans (passes.sameHands same.sound)) hp run
  exact ⟨hsame, hending⟩

end Hands

/-- The key was worked on and let go of, or it is still held by the work
that was broken off. -/
inductive HandsAfter (key : Key) (h' : Hub MemoryStore) : Hub.Ending Bool → Prop
  | letGo (sound : h'.queue.Sound) (gone : key ∉ h'.queue.processing) :
      HandsAfter key h' (.result true)
  | held (sound : h'.queue.Sound) (held : key ∈ h'.queue.processing) : HandsAfter key h' .aborted

variable {h' : Hub MemoryStore} {calls : List Call} {ending : Hub.Ending Bool}

theorem not_mem_processing_done (q : WorkQueue) (key : Key) : key ∉ (q.done key).processing := by
  have hgone : key ∉ (q.letGo key).processing := fun hk => (WorkQueue.mem_withoutKey.1 hk).2 rfl
  obtain ⟨-, -, heq⟩ | ⟨-, heq⟩ := WorkQueue.done_cases q key <;> rw [heq]
  · rwa [WorkQueue.enqueue_processing]
  · exact hgone

theorem workOn_hands {deadline : Option Moment} (hq : h.queue.Sound)
    (hwork : key ∈ h.queue.processing)
    (run : Runs (workOn settings key deadline) h calls ending h') : HandsAfter key h' ending := by
  -- the release is the last call, so a turn that is broken off has not come to it
  cases run.of_bind with
  | stuck sync => exact absurd rfl (sync.sameHands keeps_reconcile hq).2
  | aborted sync =>
    obtain ⟨hsame, -⟩ := sync.sameHands keeps_reconcile hq
    exact .held hsame.sound (hsame.processing ▸ hwork)
  | @both result _ _ synced _ _ sync run =>
    obtain ⟨hsame, -⟩ := sync.sameHands keeps_reconcile hq
    cases run.of_bind with
    | stuck after => exact absurd rfl (after.sameHands (keeps_afterSync result) hsame.sound).2
    | aborted after =>
      obtain ⟨hsame', -⟩ := after.sameHands (keeps_afterSync result) hsame.sound
      exact .held hsame'.sound ((hsame.trans hsame').processing ▸ hwork)
    | @both _ _ _ mid _ _ after run =>
      obtain ⟨hsame', -⟩ := after.sameHands (keeps_afterSync result) hsame.sound
      obtain ⟨a, released, rest, answers, rfl, run⟩ := run.of_call
      obtain rfl : released = { mid with queue := mid.queue.done key } :=
        (answers.eq (fun _ => nofun) nofun).2
      obtain ⟨rfl, rfl, rfl⟩ := run.of_done
      exact .letGo (hsame'.sound.done key) (not_mem_processing_done mid.queue key)

/-- **Who has the key after its turn**, however the turn ends. -/
theorem processNext_hands {rest : List Key} (hq : h.queue.Sound)
    (horder : h.queue.order = key :: rest)
    (run : Runs (Runner.processNext settings) h calls ending h') : HandsAfter key h' ending := by
  have hpop := WorkQueue.pop_of_order horder
  have hout := Hub.handOut_sound hq horder
  have hheld := Hub.mem_processing_handOut key rest h
  rcases run.of_take with ⟨key', queue, pop, run⟩ | ⟨queue, pop, -⟩ | ⟨queue, pop, -⟩
  · obtain ⟨hkey, rfl⟩ := Prod.mk.inj (hpop.symm.trans pop)
    obtain rfl := WorkQueue.Delivery.key.inj hkey
    change Runs (Runner.withDeadline settings.syncTimeout (workOn settings key))
      (h.handOut key rest) calls ending h' at run
    obtain ⟨deadline, later, -, run⟩ | ⟨span, -, -, rfl, -, rfl⟩ := of_withDeadline run
    · exact workOn_hands hout hheld run
    · exact .held hout hheld
  · cases hpop.symm.trans pop
  · cases hpop.symm.trans pop

/-! ## What becomes of the key -/

/-- How a turn ends that nothing else comes between, and the hub after
it. -/
def Hub.turn (settings : Settings) (h : Hub MemoryStore) : Hub.Ending Bool × Hub MemoryStore :=
  runAlone (Runner.processNext settings) h

/-- **A key is let go of exactly if the work on it does not overstep**,
whatever the settings, the store and the cache are. If it does, the turn is
broken off and the key is handed out no more, unless somebody declares done
what nobody works on. If it does not, the turn lets go of the key, which
is handed out again when it is added again before the shutdown. -/
theorem let_go_iff {rest : List Key} (hs : h.store.Sound) (hq : h.queue.Sound)
    (horder : h.queue.order = key :: rest) :
    (Oversteps settings key h → (h.turn settings).1 = .aborted ∧
      ∀ events k, QueueRun (h.turn settings).2 events k → .finished key ∉ events →
        key ∈ k.queue.processing ∧ .delivered key ∉ events) ∧
    (¬Oversteps settings key h → (h.turn settings).1 = .result true ∧
      key ∉ (h.turn settings).2.queue.processing ∧
      ∀ events k, QueueRun (h.turn settings).2 events k → .delivered key ∉ events →
        k.queue.closed = false → ∀ later k',
          RunOf (fun h _ h' => ¬h.queue.Drops h'.queue key) (k.add key) later k' →
          .delivered key ∈ later ∨
            (key ∈ k'.queue.queued ∧ later.countP QueueEvent.asks < k.queue.capacity)) := by
  have hbreaks : (h.turn settings).1 = .aborted ↔ Oversteps settings key h :=
    breaks_processNext hs horder
  obtain ⟨calls, run⟩ := Runs.of_runAlone (Runner.processNext settings) h
  have hands := processNext_hands hq horder run
  change HandsAfter key (h.turn settings).2 (h.turn settings).1 at hands
  -- what breaks the turn off is known, and so is who has the key at either end
  generalize h.turn settings = turn at hbreaks hands
  obtain ⟨ending, after⟩ := turn
  cases hands with
  | held hsound hheld =>
    refine ⟨fun _ => ⟨rfl, fun events k later hopen => later.held hsound hheld hopen⟩, ?_⟩
    exact fun hfits => absurd (hbreaks.1 rfl) hfits
  | letGo hsound hgone =>
    refine ⟨fun hover => (nomatch hbreaks.2 hover), fun _ => ⟨rfl, hgone, ?_⟩⟩
    intro events k between hkept hopen later k' run'
    have hk := (between.sound hsound).1
    have hidle := between.idle hgone hkept
    have hk' := (run'.run.sound (hk.add key)).1
    rw [hk'.mem_queued]
    exact run'.delivered_once_added hk hopen hidle

namespace Release

/-- The key of a set. -/
def setKey : Key := Key.cluster "a"

/-- A hub over a store with one set, whose key is queued. -/
def hub (conditions : List Condition) : Hub MemoryStore :=
  let set : Resource := ⟨⟨"a", none, none, none, [], none⟩, conditions⟩
  (Hub.start (MemoryStore.empty.put .set set).2 1 Instant.epoch).add setKey

theorem sound_hub (conditions : List Condition) : (hub conditions).store.Sound ∧
    (hub conditions).queue.Sound :=
  ⟨sound_empty.put _ _, (WorkQueue.sound_withCapacity 1).add setKey⟩

/-- The time limit that an operator sets, in seconds. -/
def limited (seconds : String) : Environment := fun name =>
  if name = "HUB_SYNC_TIMEOUT_SECS" then some seconds else none

/-- A condition since the last nanosecond of the calendar. -/
def last : Condition where
  type := ClusterSet.emptyType
  status := .fails
  reason := "ClustersSelected"
  message := "1 ManagedClusters selected"
  since := ⟨⟨262142, 12, 31⟩, ⟨86399, 999999999⟩, by decide, by decide⟩

end Release

/-- Under the default settings, a set without conditions. -/
theorem let_go_iff_by_default : ((Release.hub []).turn .standard).1 = .result true ∧
    Release.setKey ∉ ((Release.hub []).turn .standard).2.queue.processing := by
  obtain ⟨hs, hq⟩ := Release.sound_hub []
  have hfits : ¬Oversteps .standard Release.setKey (Release.hub []) := by decide +kernel
  have horder : (Release.hub []).queue.order = [Release.setKey] := rfl
  obtain ⟨hending, hgone, -⟩ := (let_go_iff hs hq horder).2 hfits
  exact ⟨hending, hgone⟩

/-- **A key is held for ever** after a turn that was broken off: under a
time limit that the settings accept and the clock does not reach, and for a
stored condition since the end of the calendar. Adding the key again only
marks it. -/
theorem key_is_held_for_ever :
    let late := ((Release.hub []).turn
      (Settings.ofEnvironment (Release.limited "18446744073709551615"))).2
    let last := ((Release.hub [Release.last]).turn .standard).2
    (Release.setKey ∈ late.queue.processing ∧ (late.add Release.setKey).queue.order = []) ∧
      (Release.setKey ∈ last.queue.processing ∧ (last.add Release.setKey).queue.order = []) := by
  decide +kernel

end ClusterFleet
