import ClusterFleet.Proofs.Store.Effort
import ClusterFleet.Proofs.Update.Alone

/-!
# Status updates — one attempt

What one attempt of an update alone can do to the store is said once, by
what it finds (`AttemptEnds`) and what it makes of that (`Tries`): it ends
the update, or its write meets a planted conflict and the update goes on as
after a loss (`afterLoss_ends`). What a whole
update does follows by induction on the attempts that are left. It writes
one object if it says so and otherwise nothing, whatever faults it meets
(`ofJob_writtenIf`), and it leaves cache and events alone (`leaves_ofJob`).
-/

namespace ClusterFleet

open MemoryStore

namespace StatusUpdate

open Program Position

variable {job : UpdateJob} {attempt left : ℕ} {h h' mid : Hub MemoryStore} {calls : List Call}
variable {ending : Hub.Ending (Except StoreError UpdateResult)}
variable {stored : Resource} {conditions : List Condition}

/-! ## One attempt -/

/-- The first attempt and those that may follow it are all that the policy
allows. -/
theorem one_add_left (policy : RetryPolicy) : 1 + (policy.attempts - 1) = policy.attempts := by
  have hpos : 1 ≤ policy.attempts := Nat.le_max_right policy.steps 1
  omega

/-- An attempt comes to write: it finds the object, and the mutations change
its conditions. -/
structure ComesToWrite (job : UpdateJob) (s : MemoryStore) (stored : Resource)
    (conditions : List Condition) : Prop where
  reads : s.readFaults = []
  found : s.object? job.kind job.key = some stored
  applies : Mutation.applyAll job.mutations stored.conditions = .ok conditions
  changed : conditions ≠ stored.conditions

/-- **What an attempt makes of what it has found**: how it ends the update,
or, if it loses, what the rest of the update does. -/
inductive Tries (job : UpdateJob) (attempt left : ℕ) (stored : Resource) (h h' : Hub MemoryStore) :
    Hub.Ending (Except StoreError UpdateResult) → Prop
  /-- A mutation refused. -/
  | refused {e : StoreError}
      (refuses : Mutation.applyAll job.mutations stored.conditions = .error (.error e))
      (after : h'.store = h.store.observe .get job.kind (some job.key)) :
      Tries job attempt left stored h h' (.result (.error e))
  /-- A time would lie beyond the calendar. -/
  | aborted (beyond : Mutation.applyAll job.mutations stored.conditions = .error .beyondCalendar)
      (after : h'.store = h.store.observe .get job.kind (some job.key)) :
      Tries job attempt left stored h h' .aborted
  /-- There was nothing to write. -/
  | kept (leaves : Mutation.applyAll job.mutations stored.conditions = .ok stored.conditions)
      (after : h'.store = h.store.observe .get job.kind (some job.key)) :
      Tries job attempt left stored h h' (.result (.ok ⟨stored.conditions, false⟩))
  /-- The write was accepted. -/
  | written {conditions : List Condition} (tries : ComesToWrite job h.store stored conditions)
      (clear : h.store.writeFaults = [])
      (after : h'.store =
        h.store.commit job.kind job.key { stored with conditions := conditions }) :
      Tries job attempt left stored h h' (.result (.ok ⟨conditions, true⟩))
  /-- The write met a fault that is no conflict. -/
  | rejected {conditions : List Condition} {fault : StoreError} {later : List StoreError}
      (tries : ComesToWrite job h.store stored conditions)
      (faults : h.store.writeFaults = fault :: later) (final : fault.isConflict = false)
      (after : h'.store = h.store.lose job.kind job.key 1) :
      Tries job attempt left stored h h' (.result (.error fault))
  /-- The write met a conflict. -/
  | lost {conditions : List Condition} {fault : StoreError} {later : List StoreError}
      {mid : Hub MemoryStore} {calls : List Call}
      {ending : Hub.Ending (Except StoreError UpdateResult)}
      (tries : ComesToWrite job h.store stored conditions)
      (faults : h.store.writeFaults = fault :: later) (conflict : fault.isConflict = true)
      (after : mid.store = h.store.lose job.kind job.key 1)
      (rest : Runs (afterLoss job attempt left) mid calls ending h') :
      Tries job attempt left stored h h' ending

/-- **What an attempt does** to the store, by what it finds. -/
inductive AttemptEnds (job : UpdateJob) (attempt left : ℕ) (h h' : Hub MemoryStore) :
    Hub.Ending (Except StoreError UpdateResult) → Prop
  /-- The read met a planted fault. -/
  | unread {fault : StoreError} {later : List StoreError}
      (faults : h.store.readFaults = fault :: later)
      (after : h'.store =
        { h.store.observe .get job.kind (some job.key) with readFaults := later }) :
      AttemptEnds job attempt left h h' (.result (.error fault))
  | gone (missing : h.store.object? job.kind job.key = none)
      (after : h'.store = h.store.observe .get job.kind (some job.key)) :
      AttemptEnds job attempt left h h' (.result (.error (.notFound job.kind job.key)))
  | found {stored : Resource} {ending : Hub.Ending (Except StoreError UpdateResult)}
      (found : h.store.object? job.kind job.key = some stored)
      (tries : Tries job attempt left stored h h' ending) :
      AttemptEnds job attempt left h h' ending

/-- An attempt at an object that is known finds that object. -/
theorem AttemptEnds.tries (ends : AttemptEnds job attempt left h h' ending)
    (reads : h.store.readFaults = []) (found : h.store.object? job.kind job.key = some stored) :
    Tries job attempt left stored h h' ending := by
  cases ends with
  | unread faults => cases faults.symm.trans reads
  | gone missing => cases missing.symm.trans found
  | found found' tries =>
    obtain rfl := Option.some.inj (found'.symm.trans found)
    exact tries

/-- A write that met a planted fault ends the update, or was lost. -/
theorem faulted_tries {fault : StoreError} {later : List StoreError}
    (tries : ComesToWrite job h.store stored conditions)
    (faults : h.store.writeFaults = fault :: later)
    (hlost : mid.store = h.store.lose job.kind job.key 1)
    (run : Runs (afterWrite job attempt left (.error (faultFor job.kind job.key fault)))
      mid calls ending h') : Tries job attempt left stored h h' ending := by
  cases hconflict : fault.isConflict with
  | true =>
    have hagain : (faultFor job.kind job.key fault).isConflict = true := by
      rw [isConflict_faultFor, hconflict]
    rw [afterWrite, if_pos hagain] at run
    obtain ⟨later, -, run⟩ := run.of_decided trivial
    have hcounted : (mid.answer (.count .updateConflicts)).2.store = _ := hlost
    exact .lost tries faults hconflict hcounted run
  | false =>
    have hfinal : ¬(faultFor job.kind job.key fault).isConflict = true := by
      simp [isConflict_faultFor, hconflict]
    rw [afterWrite, if_neg hfinal, faultFor_of_final hconflict] at run
    obtain ⟨-, rfl, rfl⟩ := run.of_done
    exact .rejected tries faults hconflict hlost

/-- **The write of an attempt** meets the next planted fault, or is
accepted: nobody wrote since the read. -/
theorem writing_tries (hs : h.store.Sound) (tries : ComesToWrite job h.store stored conditions)
    (hread : mid.store = h.store.observe .get job.kind (some job.key))
    (run : Runs ((Position.writing attempt left stored conditions).program job)
      mid calls ending h') : Tries job attempt left stored h h' ending := by
  obtain ⟨hkey, hnumbered, hdocument⟩ := hs.found tries.found
  let object : Resource := { stored with conditions := conditions }
  have hobject : object.key = job.key := hkey
  obtain ⟨rest, -, run⟩ := run.of_decided trivial
  change Runs (afterWrite job attempt left (mid.store.updateStatus job.kind object).1)
    { mid with store := (mid.store.updateStatus job.kind object).2 } rest ending h' at run
  cases hfaults : h.store.writeFaults with
  | nil =>
    -- what was read is still current, so the write is accepted
    have hclear : mid.store.writeFaults = [] := by rw [hread]; exact hfaults
    have hcurrent : mid.store.document? job.kind object.key = some stored.write := by
      rw [hread, hobject]
      exact hdocument
    have hsame : object.metadata.version = stored.metadata.version := rfl
    rw [updateStatus_of_current hclear hcurrent hnumbered.isSome hsame] at run
    obtain ⟨_, -, run⟩ := run.of_decided trivial
    obtain ⟨-, rfl, rfl⟩ := run.of_done
    refine .written tries hfaults ?_
    simp only [hread, hobject, observe, List.append_assoc]
    rw [← hkey]
    rfl
  | cons fault later =>
    have hplanted : mid.store.writeFaults = fault :: later := by rw [hread]; exact hfaults
    have hlose : { mid.store.observe .updateStatus job.kind (some object.key) with
        writeFaults := later } = h.store.lose job.kind job.key 1 := by
      rw [hread, hobject]
      exact lose_one hfaults
    rw [updateStatus_of_fault hplanted job.kind object, hlose, hobject] at run
    exact faulted_tries tries hfaults rfl run

/-- What an attempt does once it has read the object: the mutations decide
whether it writes. -/
theorem found_tries (hs : h.store.Sound) (reads : h.store.readFaults = [])
    (found : h.store.object? job.kind job.key = some stored)
    (hread : mid.store = h.store.observe .get job.kind (some job.key))
    (run : Runs ((ofRead job attempt left (.ok (some stored))).program job) mid calls ending h') :
    Tries job attempt left stored h h' ending := by
  rw [ofRead] at run
  cases happly : Mutation.applyAll job.mutations stored.conditions with
  | error refusal =>
    rw [happly] at run
    cases refusal with
    | error e =>
      obtain ⟨-, rfl, rfl⟩ := run.of_done
      exact .refused happly hread
    | beyondCalendar =>
      obtain ⟨-, rfl, rfl⟩ := run.of_abort
      exact .aborted happly hread
  | ok conditions =>
    rw [happly] at run
    dsimp only at run
    by_cases hsame : conditions = stored.conditions
    · rw [if_pos hsame, hsame] at run
      obtain ⟨-, rfl, rfl⟩ := run.of_done
      rw [hsame] at happly
      exact .kept happly hread
    · rw [if_neg hsame] at run
      have tries : ComesToWrite job h.store stored conditions := ⟨reads, found, happly, hsame⟩
      exact writing_tries hs tries hread run

/-- **One attempt**, and the rest of the update if it loses. -/
theorem attempt_ends (hs : h.store.Sound)
    (run : Runs (attemptsFrom job attempt left) h calls ending h') :
    AttemptEnds job attempt left h h' ending := by
  rw [attemptsFrom_eq] at run
  obtain ⟨later, -, run⟩ := run.of_decided trivial
  change Runs ((ofRead job attempt left (h.store.get job.kind job.key).1).program job)
    { h with store := (h.store.get job.kind job.key).2 } later ending h' at run
  cases hfaults : h.store.readFaults with
  | cons fault rest =>
    rw [get_of_fault hfaults] at run
    obtain ⟨-, rfl, rfl⟩ := run.of_done
    exact .unread hfaults rfl
  | nil =>
    rw [hs.get_eq hfaults] at run
    cases hobject : h.store.object? job.kind job.key with
    | none =>
      rw [hobject] at run
      obtain ⟨-, rfl, rfl⟩ := run.of_done
      exact .gone hobject rfl
    | some stored =>
      rw [hobject] at run
      exact .found hobject (found_tries hs hfaults hobject rfl run)

/-! ## What an update writes -/

/-- Whether an update says that it has written. -/
def reports : Hub.Ending (Except StoreError UpdateResult) → Bool
  | .result (.ok result) => result.updated
  | _ => false

/-- An attempt wrote what the update says, if the rest after a loss did. -/
theorem AttemptEnds.writtenIf (hs : h.store.Sound) (ends : AttemptEnds job attempt left h h' ending)
    (hrest : ∀ {mid calls ending}, mid.store = h.store.lose job.kind job.key 1 →
      Runs (afterLoss job attempt left) mid calls ending h' →
      WrittenIf job.kind job.key mid.store h'.store (reports ending)) :
    WrittenIf job.kind job.key h.store h'.store (reports ending) := by
  cases ends with
  | unread faults after => rw [after]; exact ⟨.readFault faults _ _ _, rfl⟩
  | gone missing after => rw [after]; exact Unwritten.observe _ _ _ _
  | found found tries =>
    cases tries with
    | refused refuses after => rw [after]; exact Unwritten.observe _ _ _ _
    | aborted beyond after => rw [after]; exact Unwritten.observe _ _ _ _
    | kept leaves after => rw [after]; exact Unwritten.observe _ _ _ _
    | written tries clear after =>
      rw [after]
      exact WrittenOnce.commit hs tries.found tries.changed
    | rejected tries faults final after => rw [after]; exact Unwritten.lose _ _ _ _
    | lost tries faults conflict after rest =>
      have hlost : Unwritten h.store (h.store.lose job.kind job.key 1) := .lose _ _ _ _
      exact (hrest after rest).before (after ▸ hlost)

/-- **Attempts wrote what the update says.** -/
theorem attemptsFrom_writtenIf (hs : h.store.Sound)
    (run : Runs (attemptsFrom job attempt left) h calls ending h') :
    WrittenIf job.kind job.key h.store h'.store (reports ending) := by
  induction left generalizing attempt h calls ending with
  | zero =>
    refine (attempt_ends hs run).writtenIf hs fun _ rest => ?_
    obtain ⟨-, rfl, hstore⟩ | ⟨-, rfl, hstore⟩ | ⟨_, _, _, hleft, -⟩ := afterLoss_ends rest
    · rw [hstore]; exact Unwritten.refl _
    · rw [hstore]; exact Unwritten.refl _
    · cases hleft
  | succ left ih =>
    refine (attempt_ends hs run).writtenIf hs fun hlost rest => ?_
    have hsound := (Unwritten.lose job.kind job.key 1 h.store).consulted.sound hs
    obtain ⟨hleft, -⟩ | ⟨-, rfl, hstore⟩ | ⟨_, later, _, hleft, hstore, run⟩ := afterLoss_ends rest
    · cases hleft
    · rw [hstore]; exact Unwritten.refl _
    · cases hleft
      rw [← hlost, ← hstore] at hsound
      rw [← hstore]
      exact ih hsound run

/-- **An update wrote what it says**, whatever faults it met. -/
theorem ofJob_writtenIf (hs : h.store.Sound) (run : Runs (ofJob job) h calls ending h') :
    WrittenIf job.kind job.key h.store h'.store (reports ending) := attemptsFrom_writtenIf hs run

/-! ## What an update leaves alone -/

theorem tells_passes {h h' : Hub MemoryStore} (passes : h.Passes h') :
    h'.events = h.events ∧ h'.calendar = h.calendar := by
  induction passes with
  | rest => exact ⟨rfl, rfl⟩
  | goesOn _ _ ih => exact ih
  | wentOff _ _ _ ih => exact ih

/-- What an update leaves alone. -/
structure Leaves (h h' : Hub MemoryStore) : Prop where
  cache : h'.cache = h.cache
  events : h'.events = h.events
  calendar : h'.calendar = h.calendar

/-- **An update leaves cache, events and calendar alone.** -/
theorem leaves_ofJob (run : Runs (ofJob job) h calls ending h') : Leaves h h' := by
  refine (Runs.frame ⟨rfl, rfl, rfl⟩ ?_ ?_ (uses_attemptsFrom job 1 _) run).1
  · intro c a k k' hc answers hk
    have hsame : Leaves k k' := by
      cases answers with
      | usual => cases hc <;> exact ⟨rfl, rfl, rfl⟩
      | drawn => exact ⟨rfl, rfl, rfl⟩
      | shown => cases hc
    exact ⟨hsame.cache.trans hk.cache, hsame.events.trans hk.events,
      hsame.calendar.trans hk.calendar⟩
  · intro k k' passes hk
    obtain ⟨hevents, hcalendar⟩ := tells_passes passes
    exact ⟨passes.aside.2.trans hk.cache, hevents.trans hk.events, hcalendar.trans hk.calendar⟩

end StatusUpdate

end ClusterFleet
