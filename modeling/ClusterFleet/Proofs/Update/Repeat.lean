import ClusterFleet.Proofs.Hub.Amid
import ClusterFleet.Proofs.Object.History
import ClusterFleet.Proofs.Store.Versions
import ClusterFleet.Proofs.Update.Outcome

/-!
# Status updates — doing it again

An update that has come to a result leaves its conditions in the store
(`Reached`), and as long as nobody else writes the object they stay there.
Where the conditions it set were of different types, the stored list shows
every one of them (`shows_of_applyAll`), so setting them again, at whatever
times, changes nothing, and the second update ends after its read
(`kept_of_runs`).
-/

namespace ClusterFleet

open MemoryStore

namespace Condition

variable {d e other : Condition} {cs cs' desired : List Condition}

/-- A list that shows a condition shows it at any other time. -/
theorem Shows.of_timeless (h : d.timeless = e.timeless) (shown : e.Shows cs) : d.Shows cs := by
  obtain ⟨c, hfind, hstatus, hreason, hmessage⟩ := shown
  obtain ⟨htype, hsame⟩ : d.type = e.type ∧ e.status = d.status ∧ e.reason = d.reason ∧
      e.message = d.message := by
    obtain ⟨type, status, reason, message, since⟩ := d
    obtain ⟨type', status', reason', message', since'⟩ := e
    obtain ⟨rfl, rfl, rfl, rfl, -⟩ := Condition.mk.inj h
    exact ⟨rfl, rfl, rfl, rfl⟩
  rw [← htype] at hfind
  exact ⟨c, hfind, hstatus.trans hsame.1, hreason.trans hsame.2.1, hmessage.trans hsame.2.2⟩

end Condition

namespace StatusUpdate

open Program Position Condition

/-! ## Setting several conditions -/

section Several

variable {d : Condition} {cs cs' desired : List Condition}

/-- What is shown goes on being shown when other types are set. -/
theorem shows_of_fresh (shown : d.Shows cs) (fresh : d.type ∉ types desired)
    (h : Mutation.applyAll (desired.map Mutation.set) cs = .ok cs') : d.Shows cs' := by
  induction desired generalizing cs with
  | nil =>
    obtain rfl := Except.ok.inj h
    exact shown
  | cons first rest ih =>
    have hne : d.type ≠ first.type := fun heq => fresh (heq ▸ List.mem_cons_self)
    have hrest : d.type ∉ types rest := fun hmem => fresh (List.mem_cons_of_mem _ hmem)
    obtain ⟨mid, hset, hlater⟩ := set_of_applyAll_cons h
    exact ih (shown.set_of_ne hset hne) hrest hlater

/-- **Conditions of different types that were set are all shown.** -/
theorem shows_of_applyAll (distinct : (types desired).Nodup)
    (h : Mutation.applyAll (desired.map Mutation.set) cs = .ok cs') :
    ∀ d ∈ desired, d.Shows cs' := by
  induction desired generalizing cs with
  | nil => exact fun d hd => nomatch hd
  | cons first rest ih =>
    obtain ⟨hfresh, hrest⟩ := List.nodup_cons.1 distinct
    obtain ⟨mid, hset, hlater⟩ := set_of_applyAll_cons h
    -- the first is shown once it is set, and none of the others has its type
    intro d hd
    rcases List.mem_cons.1 hd with rfl | hd
    · exact shows_of_fresh (shows_set hset) hfresh hlater
    · exact ih hrest hlater d hd

/-- **Setting what is shown changes nothing**, whatever times it has. -/
theorem applyAll_of_shows (h : ∀ d ∈ desired, d.Shows cs) :
    Mutation.applyAll (desired.map Mutation.set) cs = .ok cs := by
  induction desired with
  | nil => rfl
  | cons first rest ih =>
    rw [applyAll_set_cons, set_of_shows (h first List.mem_cons_self)]
    exact ih fun d hd => h d (List.mem_cons_of_mem _ hd)

end Several

/-! ## What an update leaves behind -/

variable {job : UpdateJob} {pos pos' : Position} {h h' : Hub MemoryStore} {c : Option Call}
variable {s s' : MemoryStore} {conditions : List Condition}

/-- What others may do to a store that an update works on: any operation
that leaves its object as it is and plants no fault for a read. -/
structure Aloof (kind : Kind) (key : Key) (s s' : MemoryStore) : Prop where
  operation : ∃ op : Operation, s' = op.run s
  object : s'.object? kind key = s.object? kind key
  reads : s'.readFaults <:+ s.readFaults

/-- **Conditions that an update has reached**: the object has them, the
mutations made them of some others, and no fault is left for a read. -/
structure Reached (job : UpdateJob) (s : MemoryStore) (conditions : List Condition) : Prop where
  reads : s.readFaults = []
  stored : ∃ stored, s.object? job.kind job.key = some stored ∧ stored.conditions = conditions
  applied : ∃ before, Mutation.applyAll job.mutations before = .ok conditions

/-- What an update has seen to at a position: once it has read without a
fault none is left, and once it has come to a result its conditions are
reached. -/
def Position.SeenTo (job : UpdateJob) (s : MemoryStore) : Position → Prop
  | .writing _ _ _ _ => s.readFaults = []
  | .wrote written => Reached job s written.conditions
  | .ended (.ok result) => Reached job s result.conditions
  | _ => True

/-- What holds of an update under way, at its position. -/
structure UnderWay (job : UpdateJob) (s : MemoryStore) (pos : Position) : Prop where
  sound : s.Sound
  fits : Fits s job pos
  seenTo : pos.SeenTo job s

theorem Reached.aloof (reached : Reached job s conditions) (aloof : Aloof job.kind job.key s s') :
    Reached job s' conditions := by
  obtain ⟨stored, hstored, hconditions⟩ := reached.stored
  refine ⟨?_, ⟨stored, aloof.object.trans hstored, hconditions⟩, reached.applied⟩
  exact List.suffix_nil.1 (reached.reads ▸ aloof.reads)

/-- **Others leave an update where it is.** -/
theorem UnderWay.aloof (under : UnderWay job s pos) (aloof : Aloof job.kind job.key s s') :
    UnderWay job s' pos := by
  obtain ⟨op, rfl⟩ := aloof.operation
  have hlater : Later s (op.run s) := .of_run under.sound op
  refine ⟨hlater.sound, under.fits.later hlater, ?_⟩
  have hseen := under.seenTo
  cases pos with
  | writing => exact List.suffix_nil.1 (hseen ▸ aloof.reads)
  | wrote written => exact Reached.aloof hseen aloof
  | ended result =>
    cases result with
    | ok result => exact Reached.aloof hseen aloof
    | error e => trivial
  | _ => trivial

/-- A read that meets no fault is the last but the write, or finds the
conditions reached. -/
theorem seenTo_ofRead (hs : h.store.Sound) (attempt left : Nat) :
    (ofRead job attempt left (h.store.get job.kind job.key).1).SeenTo job
      (h.store.get job.kind job.key).2 := by
  cases hfaults : h.store.readFaults with
  | cons fault later =>
    rw [get_of_fault hfaults]
    trivial
  | nil =>
    rw [hs.get_eq hfaults]
    cases hobject : h.store.object? job.kind job.key with
    | none => trivial
    | some object =>
      rw [ofRead]
      rcases happly : Mutation.applyAll job.mutations object.conditions with (e | _) | conditions
      · trivial
      · trivial
      · dsimp only
        split
        · rename_i heq
          exact ⟨hfaults, ⟨object, hobject, heq.symm⟩, object.conditions, happly⟩
        · exact hfaults

/-- No write uses up or plants a fault for a read. -/
theorem readFaults_updateStatus (hs : s.Sound) (kind : Kind) (object : Resource) :
    (s.updateStatus kind object).2.readFaults <:+ s.readFaults := by
  rcases hs.updateStatus_cases kind object with ⟨_, -, -, hsame⟩ | ⟨_, -, -, -, hheld⟩
  · exact hsame.readFaults
  · exact hheld.readFaults

/-- A write that succeeds has reached its conditions. -/
theorem seenTo_ofWrite {attempt left : Nat} {read : Resource}
    (under : UnderWay job h.store (.writing attempt left read conditions)) {object : Resource}
    (hobject : object = { read with conditions := conditions }) :
    (ofWrite attempt left (h.store.updateStatus job.kind object).1).SeenTo job
      (h.store.updateStatus job.kind object).2 := by
  have hreads : (h.store.updateStatus job.kind object).2.readFaults = [] :=
    List.suffix_nil.1 (under.seenTo ▸ readFaults_updateStatus under.sound job.kind object)
  have hcases := write_cases under.sound under.fits hobject
  cases hresult : (h.store.updateStatus job.kind object).1 with
  | error e =>
    rw [ofWrite]
    split
    · trivial
    · trivial
  | ok written =>
    -- a write that succeeded is no quiet step, so it wrote what the mutations made
    rcases hcases with quiet | ⟨other, wrote⟩
    · exact absurd ⟨_, _, rfl, hresult⟩ (quiet.none written)
    · obtain rfl := (wrote.writes written).1 ⟨_, _, rfl, hresult⟩
      obtain ⟨stored, n, -, happly, -⟩ := wrote.applied.stored
      exact ⟨hreads, ⟨written, wrote.applied.found, rfl⟩, stored.conditions, happly⟩

/-- **An update's own step** keeps what holds of it. -/
theorem UnderWay.moves (under : UnderWay job h.store pos) (moves : Moves job pos h c pos' h') :
    UnderWay job h'.store pos' := by
  have hthen : h'.store.Sound ∧ Fits h'.store job pos' := by
    rcases moves.outcome under.sound under.fits with quiet | ⟨written, wrote⟩
    · exact ⟨quiet.same.sound under.sound, quiet.fits⟩
    · rw [wrote.position]
      exact ⟨wrote.later.sound, trivial⟩
  refine ⟨hthen.1, hthen.2, ?_⟩
  cases moves with
  | read attempt left => exact seenTo_ofRead under.sound attempt left
  | write attempt left read conditions => exact seenTo_ofWrite under rfl
  | counted written same =>
    rw [same]
    exact under.seenTo
  | countedLoss attempt left same => cases left <;> trivial
  | drew => trivial
  | slept => trivial
  | cut => trivial
  | countedLate => trivial

section Amid

variable {others : MemoryStore → MemoryStore → Prop} {p : Update}
variable {t : AmidTurn MemoryStore} {turns : List (AmidTurn MemoryStore)}

/-- What a turn is to an update amid others: a step of its own, a change by
others, or nothing that the store shows. -/
theorem moves_of_amidStep (step : AmidStep others (pos.program job) h t p h') :
    (∃ c pos', p = pos'.program job ∧ Moves job pos h c pos' h') ∨
      p = pos.program job ∧ (others h.store h'.store ∨ h'.store = h.store) := by
  generalize hp : pos.program job = q at step
  cases step with
  | @asked call next _ _ a answers =>
    have own : Step (.call call next) h (some call) (next a) h' := .call answers
    rw [← hp] at own
    obtain ⟨pos', hpos', moves⟩ := Moves.of_step own
    exact .inl ⟨_, pos', hpos', moves⟩
  | moved own =>
    subst hp
    obtain ⟨pos', hpos', moves⟩ := Moves.of_step own
    exact .inl ⟨_, pos', hpos', moves⟩
  | edited edit => exact .inr ⟨rfl, .inl edit⟩
  | passed passes => exact .inr ⟨rfl, .inr passes.aside.1⟩

/-- **What holds of an update goes on holding** amid others that keep
aloof. -/
theorem underWay_of_amidRun (hs : h.store.Sound)
    (run : AmidRun (Aloof job.kind job.key) (ofJob job) h turns p h') :
    ∃ pos, p = pos.program job ∧ UnderWay job h'.store pos := by
  -- turn by turn, and the position is that of the program
  induction run with
  | start => exact ⟨.reading 1 (job.policy.attempts - 1), rfl, hs, trivial, trivial⟩
  | step _ step ih =>
    obtain ⟨pos, rfl, under⟩ := ih
    obtain ⟨c, pos', hpos', moves⟩ | ⟨rfl, aloof | same⟩ := moves_of_amidStep step
    · exact ⟨pos', hpos', under.moves moves⟩
    · exact ⟨pos, rfl, under.aloof aloof⟩
    · exact ⟨pos, rfl, same ▸ under⟩

/-- An update that has come to a result has reached its conditions. -/
theorem reached_of_amidRun {result : UpdateResult} (hs : h.store.Sound)
    (run : AmidRun (Aloof job.kind job.key) (ofJob job) h turns (.done (.ok result)) h') :
    h'.store.Sound ∧ Reached job h'.store result.conditions := by
  obtain ⟨pos, hpos, under⟩ := underWay_of_amidRun hs run
  obtain rfl := eq_ended hpos.symm
  exact ⟨under.sound, under.seenTo⟩

end Amid

/-! ## The second time -/

section Again

variable {calls : List Call} {ending : Hub.Ending (Except StoreError UpdateResult)}
variable {stored : Resource}

/-- **An update that finds its conditions stored** reads once, and changes
nothing but the store's record of requests. -/
theorem kept_of_runs (hs : h.store.Sound) (reads : h.store.readFaults = [])
    (found : h.store.object? job.kind job.key = some stored)
    (leaves : Mutation.applyAll job.mutations stored.conditions = .ok stored.conditions)
    (run : Runs (ofJob job) h calls ending h') :
    calls = [.get job.kind job.key] ∧ ending = .result (.ok ⟨stored.conditions, false⟩) ∧
      h' = { h with store := h.store.observe .get job.kind (some job.key) } := by
  have hjob : ofJob job = call (.get job.kind job.key) fun found =>
      (ofRead job 1 (job.policy.attempts - 1) found).program job := attemptsFrom_eq job 1 _
  rw [hjob] at run
  obtain ⟨later, hcalls, run⟩ := run.of_decided trivial
  let more := job.policy.attempts - 1
  change Runs ((ofRead job 1 more (h.store.get job.kind job.key).1).program job)
    { h with store := (h.store.get job.kind job.key).2 } later ending h' at run
  have hnext : ofRead job 1 more (.ok (some stored)) =
      .ended (.ok ⟨stored.conditions, false⟩) := by
    simp only [ofRead, leaves, if_true]
  rw [hs.get_eq reads, found, hnext] at run
  obtain ⟨rfl, rfl, rfl⟩ := run.of_done
  exact ⟨hcalls, rfl, rfl⟩

end Again

/-- The update that sets some conditions. -/
def setting (kind : Kind) (key : Key) (desired : List Condition) (policy : RetryPolicy)
    (deadline : Option Moment) : UpdateJob :=
  ⟨kind, key, desired.map Mutation.set, policy, deadline⟩

/-- **Updates are idempotent.** An update that sets conditions of different
types has come to a result, whatever was stored, whatever conflicts it met,
and whatever others have done but write its object or plant a fault for a
read. Then another update that sets conditions of the same types, statuses,
reasons and messages, at whatever times, makes one call, its read; it ends
with the same status and says that it has written nothing; and it leaves the
hub as it is, with every object and every version, but for the note of its
read. -/
theorem updates_are_idempotent {kind : Kind} {key : Key} {desired again : List Condition}
    {policy policy' : RetryPolicy} {deadline deadline' : Option Moment}
    {h h' h'' : Hub MemoryStore} {turns : List (AmidTurn MemoryStore)} {result : UpdateResult}
    {calls : List Call} {ending : Hub.Ending (Except StoreError UpdateResult)}
    (sound : h.store.Sound) (distinct : (types desired).Nodup)
    (same : ∀ d ∈ again, ∃ e ∈ desired, d.timeless = e.timeless)
    (first : AmidRun (Aloof kind key) (ofJob (setting kind key desired policy deadline)) h turns
      (.done (.ok result)) h')
    (second : Runs (ofJob (setting kind key again policy' deadline')) h' calls ending h'') :
    calls = [.get kind key] ∧ ending = .result (.ok ⟨result.conditions, false⟩) ∧
      h'' = { h' with store := h'.store.observe .get kind (some key) } := by
  let job : UpdateJob := setting kind key desired policy deadline
  let job' : UpdateJob := setting kind key again policy' deadline'
  change AmidRun (Aloof job.kind job.key) (ofJob job) h turns (.done (.ok result)) h' at first
  change Runs (ofJob job') h' calls ending h'' at second
  obtain ⟨hsound, hreads, ⟨stored, hstored, hconditions⟩, before, happlied⟩ :=
    reached_of_amidRun sound first
  -- what the first has left shows each condition, and so each that differs in its time
  have hshows : ∀ d ∈ again, d.Shows stored.conditions := by
    intro d hd
    obtain ⟨e, he, htimeless⟩ := same d hd
    rw [hconditions]
    exact .of_timeless htimeless (shows_of_applyAll distinct happlied e he)
  have hleaves : Mutation.applyAll job'.mutations stored.conditions = .ok stored.conditions :=
    applyAll_of_shows hshows
  have hfound : h'.store.object? job'.kind job'.key = some stored := hstored
  rw [← hconditions]
  exact kept_of_runs hsound hreads hfound hleaves second

/-- A store with a member that has two conditions of one type, and a
conflict planted. -/
def repeated : MemoryStore :=
  let ready (status : ConditionStatus) : Condition := ⟨"Ready", status, "", "", Instant.epoch⟩
  let member : Resource := ⟨⟨"m", none, none, none, [], none⟩, [ready .fails, ready .holds]⟩
  (MemoryStore.empty.put .member member).2.plantConflicts 1

/-- Two conditions for the member, of which it has no second one. -/
def joining (now : Instant) : List Condition :=
  [⟨"Ready", .holds, "Joined", "", now⟩, ⟨"Available", .fails, "NotYet", "", now⟩]

/-- The update that sets the two. -/
def joiningJob (now : Instant) : UpdateJob :=
  setting .member (.cluster "m") (joining now) .standard none

/-- The update when its first write was lost. -/
def joiningLost : Update × Hub MemoryStore :=
  (ofJob (joiningJob Instant.epoch)).advance 3 (Hub.start repeated 1 Instant.epoch)

/-- The update at its end: somebody has put a set when its first write was
lost. -/
def joiningDone : Update × Hub MemoryStore :=
  joiningLost.1.advance 5
    { joiningLost.2 with store := (Operation.putSet "a").run joiningLost.2.store }

/-- The result that an update has come to, if it is no error. -/
def result? : Update → Option UpdateResult
  | .done (.ok result) => some result
  | _ => none

theorem eq_done_of_result? {p : Update} {result : UpdateResult} (h : result? p = some result) :
    p = .done (.ok result) := by
  unfold result? at h
  split at h
  · exact congrArg _ (congrArg _ (Option.some.inj h))
  · cases h

/-- The member is written at the second attempt; the same conditions, the
other way round and a microsecond later, are not. -/
theorem updates_are_idempotent_joining : ∃ turns h' result later calls h'',
    AmidRun (Aloof .member (.cluster "m")) (ofJob (joiningJob Instant.epoch))
        (Hub.start repeated 1 Instant.epoch) turns (.done (.ok result)) h' ∧
      result.updated = true ∧ Instant.epoch.addMicrosecond = some later ∧
      Runs (ofJob (setting .member (.cluster "m") (joining later).reverse .standard none)) h'
        calls (.result (.ok ⟨result.conditions, false⟩)) h'' ∧
      h''.store.versions = h'.store.versions ∧ h''.store.statusWrites = 1 := by
  let hub : Hub MemoryStore := Hub.start repeated 1 Instant.epoch
  have hput := sound_empty.put .member ⟨⟨"m", none, none, none, [], none⟩,
    [⟨"Ready", .fails, "", "", Instant.epoch⟩, ⟨"Ready", .holds, "", "", Instant.epoch⟩]⟩
  have hsound : hub.store.Sound := ⟨hput.written, hput.nodup⟩
  have aloof : Aloof .member (.cluster "m") joiningLost.2.store
      ((Operation.putSet "a").run joiningLost.2.store) := by
    refine ⟨⟨_, rfl⟩, ?_, List.suffix_refl _⟩
    exact (object?_put ..).trans (if_neg nofun)
  have begun : AmidRun (Aloof .member (.cluster "m")) (ofJob (joiningJob Instant.epoch)) hub []
      (ofJob (joiningJob Instant.epoch)) hub := .start
  obtain ⟨early, run⟩ := begun.advance 3
  obtain ⟨late, first⟩ := (run.step (.edited aloof)).advance 5
  change AmidRun _ _ _ _ joiningDone.1 joiningDone.2 at first
  obtain ⟨result, hresult⟩ : ∃ result, result? joiningDone.1 = some result :=
    Option.isSome_iff_exists.1 (by decide +kernel)
  have hupdated : (result? joiningDone.1).map UpdateResult.updated = some true := by
    decide +kernel
  obtain ⟨later, hlater⟩ : ∃ later, Instant.epoch.addMicrosecond = some later :=
    Option.isSome_iff_exists.1 (by decide +kernel)
  have hwrites : joiningDone.2.store.statusWrites = 1 := by decide +kernel
  rw [eq_done_of_result? hresult] at first
  rw [hresult] at hupdated
  obtain ⟨calls, second⟩ := Runs.of_runAlone
    (ofJob (setting .member (.cluster "m") (joining later).reverse .standard none)) joiningDone.2
  have hsame : ∀ d ∈ (joining later).reverse, ∃ e ∈ joining Instant.epoch,
      d.timeless = e.timeless := by
    intro d hd
    obtain rfl | rfl : d = _ ∨ d = _ := by simpa [joining] using hd
    · exact ⟨_, List.mem_cons_of_mem _ List.mem_cons_self, rfl⟩
    · exact ⟨_, List.mem_cons_self, rfl⟩
  obtain ⟨-, hending, hafter⟩ := updates_are_idempotent hsound (by decide) hsame first second
  rw [hending] at second
  refine ⟨_, _, result, later, calls, _, first, Option.some.inj hupdated, hlater, second, ?_, ?_⟩
  · rw [hafter]
    rfl
  · rw [hafter]
    exact hwrites

end StatusUpdate

end ClusterFleet
