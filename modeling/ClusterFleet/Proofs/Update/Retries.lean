import ClusterFleet.Proofs.Update.Attempt

/-!
# Status updates — how many attempts

Where no read fails and nobody else writes, the planted faults decide how
an update fares (`Fares`): each conflict ahead costs one attempt, and what
comes after them decides the attempt that is left. A conflict only shifts
this by one (`Fares.of_lost`), so it follows by induction on the attempts
that are left, and `retries_are_counted` says it for the whole update, down
to the requests that the store has seen.
-/

namespace ClusterFleet

open MemoryStore

namespace StatusUpdate

open Program Position

variable {job : UpdateJob} {attempt left : ℕ} {h h' mid : Hub MemoryStore} {calls : List Call}
variable {ending : Hub.Ending (Except StoreError UpdateResult)}
variable {stored : Resource} {conditions : List Condition}

/-- **How an update fares** among planted faults, with so many attempts left
after the given one: the conflicts ahead use up attempts, and what comes
after them decides the one that is left. -/
inductive Fares (job : UpdateJob) (stored : Resource) (conditions : List Condition)
    (attempt left : ℕ) (s s' : MemoryStore) :
    Hub.Ending (Except StoreError UpdateResult) → Prop
  /-- There are as many conflicts as attempts. -/
  | exhausted (all : left < s.conflictsAhead) (after : s' = s.lose job.kind job.key (left + 1)) :
      Fares job stored conditions attempt left s s'
        (.result (.error (.exhausted job.kind job.key (attempt + left))))
  /-- No other fault follows the conflicts. -/
  | written (few : s.conflictsAhead ≤ left) (clear : s.writeFaults.drop s.conflictsAhead = [])
      (after : s' = (s.lose job.kind job.key s.conflictsAhead).commit job.kind job.key
        { stored with conditions := conditions }) :
      Fares job stored conditions attempt left s s' (.result (.ok ⟨conditions, true⟩))
  /-- Another fault follows the conflicts. -/
  | rejected {fault : StoreError} {later : List StoreError} (few : s.conflictsAhead ≤ left)
      (next : s.writeFaults.drop s.conflictsAhead = fault :: later)
      (final : fault.isConflict = false)
      (after : s' = s.lose job.kind job.key (s.conflictsAhead + 1)) :
      Fares job stored conditions attempt left s s' (.result (.error fault))

section Fares

variable {s s' : MemoryStore} {fault : StoreError} {later : List StoreError}

/-- A conflict ahead costs an attempt, and the update fares as it does with
one attempt less. -/
theorem Fares.of_lost (faults : s.writeFaults = fault :: later) (conflict : fault.isConflict = true)
    (fares : Fares job stored conditions (attempt + 1) left (s.lose job.kind job.key 1) s' ending) :
    Fares job stored conditions attempt (left + 1) s s' ending := by
  have hahead : s.conflictsAhead = (s.lose job.kind job.key 1).conflictsAhead + 1 :=
    conflictsAhead_of_conflict faults conflict job.kind job.key
  have hdrop : s.writeFaults.drop s.conflictsAhead = (s.lose job.kind job.key 1).writeFaults.drop
      (s.lose job.kind job.key 1).conflictsAhead := by
    rw [hahead, Nat.add_comm, ← List.drop_drop]
    rfl
  cases fares with
  | exhausted all after =>
    have hattempt : attempt + 1 + left = attempt + (left + 1) := by omega
    rw [hattempt]
    refine .exhausted (by omega) ?_
    rw [after, lose_lose, Nat.add_comm 1]
  | written few clear after =>
    refine .written (by omega) (hdrop.trans clear) ?_
    rw [after, lose_lose, hahead, Nat.add_comm 1]
  | rejected few next final after =>
    refine .rejected (by omega) (hdrop.trans next) final ?_
    rw [after, lose_lose, hahead, Nat.add_comm 1]

/-- With as many conflicts ahead as attempts, it is exhausted. -/
theorem Fares.exhausts (fares : Fares job stored conditions attempt left s s' ending)
    (all : left < s.conflictsAhead) :
    ending = .result (.error (.exhausted job.kind job.key (attempt + left))) ∧
      s' = s.lose job.kind job.key (left + 1) := by
  cases fares with
  | exhausted _ after => exact ⟨rfl, after⟩
  | written few => exact absurd all (Nat.not_lt_of_le few)
  | rejected few => exact absurd all (Nat.not_lt_of_le few)

/-- With fewer, and nothing after them, it gets through. -/
theorem Fares.writes (fares : Fares job stored conditions attempt left s s' ending)
    (few : s.conflictsAhead ≤ left) (clear : s.writeFaults.drop s.conflictsAhead = []) :
    ending = .result (.ok ⟨conditions, true⟩) ∧
      s' = (s.lose job.kind job.key s.conflictsAhead).commit job.kind job.key
        { stored with conditions := conditions } := by
  cases fares with
  | exhausted all => exact absurd all (Nat.not_lt_of_le few)
  | written _ _ after => exact ⟨rfl, after⟩
  | rejected _ next => cases clear.symm.trans next

/-- With fewer, and a fault after them, it ends with that fault. -/
theorem Fares.rejects (fares : Fares job stored conditions attempt left s s' ending)
    (few : s.conflictsAhead ≤ left)
    (next : s.writeFaults.drop s.conflictsAhead = fault :: later) :
    ending = .result (.error fault) ∧ s' = s.lose job.kind job.key (s.conflictsAhead + 1) := by
  cases fares with
  | exhausted all => exact absurd all (Nat.not_lt_of_le few)
  | written _ clear => cases clear.symm.trans next
  | rejected _ next' _ after =>
    obtain ⟨rfl, -⟩ := List.cons.inj (next'.symm.trans next)
    exact ⟨rfl, after⟩

/-- No update fares so as to end with a conflict. -/
theorem Fares.not_conflict (fares : Fares job stored conditions attempt left s s' ending)
    (kind : Kind) (key : Key) (message : String) :
    ending ≠ .result (.error (.conflict kind key message)) := by
  cases fares with
  | exhausted => exact nofun
  | written => exact nofun
  | rejected few next final after =>
    rintro ⟨⟩
    cases final

end Fares

/-- What an attempt finds, it finds again after it has lost. -/
theorem ComesToWrite.again {s : MemoryStore} (tries : ComesToWrite job s stored conditions)
    (n : ℕ) : ComesToWrite job (s.lose job.kind job.key n) stored conditions := by
  have hobject := (Unwritten.lose job.kind job.key n s).consulted.object? job.kind job.key
  exact ⟨tries.reads, hobject.trans tries.found, tries.applies, tries.changed⟩

/-- An attempt fares as the faults decide, if the rest after a loss does. -/
theorem AttemptEnds.fares (tries : ComesToWrite job h.store stored conditions)
    (ends : AttemptEnds job attempt left h h' ending)
    (hrest : ∀ {fault later mid calls ending}, h.store.writeFaults = fault :: later →
      fault.isConflict = true → mid.store = h.store.lose job.kind job.key 1 →
      Runs (afterLoss job attempt left) mid calls ending h' →
      Fares job stored conditions attempt left h.store h'.store ending) :
    Fares job stored conditions attempt left h.store h'.store ending := by
  have happlies {result : Except Refusal (List Condition)}
      (applies : Mutation.applyAll job.mutations stored.conditions = result) :
      result = .ok conditions := applies.symm.trans tries.applies
  cases ends.tries tries.reads tries.found with
  | refused refuses => cases happlies refuses
  | aborted beyond => cases happlies beyond
  | kept leaves => exact absurd (Except.ok.inj (happlies leaves)).symm tries.changed
  | written tries' clear after =>
    -- no conflict is ahead, so this is the attempt that decides
    obtain rfl := Except.ok.inj (happlies tries'.applies)
    have hnone : h.store.conflictsAhead = 0 := conflictsAhead_of_nil clear
    refine .written (by omega) ?_ ?_
    · rw [hnone, clear, List.drop_nil]
    · rw [hnone, lose_zero, after]
  | @rejected _ fault later tries' faults final after =>
    have hnone : h.store.conflictsAhead = 0 := conflictsAhead_of_final faults final
    have hnext : h.store.writeFaults.drop h.store.conflictsAhead = fault :: later := by
      rw [hnone, List.drop_zero, faults]
    refine .rejected (by omega) hnext final ?_
    rw [hnone, after]
  | lost tries' faults conflict after rest => exact hrest faults conflict after rest

/-- **Attempts fare as the planted conflicts decide**, where there is no
deadline, no read fails and the mutations change the status. -/
theorem attemptsFrom_fares (untimed : job.deadline = none) (hs : h.store.Sound)
    (tries : ComesToWrite job h.store stored conditions)
    (run : Runs (attemptsFrom job attempt left) h calls ending h') :
    Fares job stored conditions attempt left h.store h'.store ending := by
  -- on the attempts that are left: a lost one leaves a store with one conflict less ahead
  induction left generalizing attempt h calls ending with
  | zero =>
    refine (attempt_ends hs run).fares tries fun faults conflict after rest => ?_
    obtain ⟨-, rfl, hstore⟩ | ⟨htimed, -⟩ | ⟨_, _, _, hleft, -⟩ := afterLoss_ends rest
    · have hsome := conflictsAhead_of_conflict faults conflict job.kind job.key
      exact .exhausted (by omega) (hstore.trans after)
    · rw [untimed] at htimed
      cases htimed
    · cases hleft
  | succ left ih =>
    refine (attempt_ends hs run).fares tries fun faults conflict after rest => ?_
    obtain ⟨hleft, -⟩ | ⟨htimed, -⟩ | ⟨_, later, _, hleft, hstore, run⟩ := afterLoss_ends rest
    · cases hleft
    · rw [untimed] at htimed
      cases htimed
    · cases hleft
      have hlater : later.store = h.store.lose job.kind job.key 1 := hstore.trans after
      have hsound : later.store.Sound := by
        rw [hlater]
        exact (Unwritten.lose job.kind job.key 1 h.store).consulted.sound hs
      have hagain : ComesToWrite job later.store stored conditions := by
        rw [hlater]
        exact tries.again 1
      have hfares := ih hsound hagain run
      rw [hlater] at hfares
      exact hfares.of_lost faults conflict

/-- An attempt that has nothing to change reads once. -/
theorem AttemptEnds.keeps (reads : h.store.readFaults = [])
    (found : h.store.object? job.kind job.key = some stored)
    (leaves : Mutation.applyAll job.mutations stored.conditions = .ok stored.conditions)
    (ends : AttemptEnds job attempt left h h' ending) :
    ending = .result (.ok ⟨stored.conditions, false⟩) ∧
      h'.store = h.store.observe .get job.kind (some job.key) := by
  have hwrites {conditions : List Condition} (tries : ComesToWrite job h.store stored conditions) :
      False := tries.changed (Except.ok.inj (tries.applies.symm.trans leaves))
  cases ends.tries reads found with
  | refused refuses => cases leaves.symm.trans refuses
  | aborted beyond => cases leaves.symm.trans beyond
  | kept leaves' after => exact ⟨rfl, after⟩
  | written tries => exact (hwrites tries).elim
  | rejected tries => exact (hwrites tries).elim
  | lost tries => exact (hwrites tries).elim

/-- **Retries are counted.** Where no read fails, no deadline is set and
nobody else writes, an update whose mutations give some conditions ends as
the planted conflicts ahead decide. If they change nothing it reads once and
writes nothing. Otherwise each conflict costs one read and one write: as many
of them as the policy allows attempts exhaust the update; fewer, and the
update ends with the next fault, or else with its conditions written. It
never ends with a conflict. -/
theorem retries_are_counted (sound : h.store.Sound) (reads : h.store.readFaults = [])
    (untimed : job.deadline = none) (found : h.store.object? job.kind job.key = some stored)
    (applies : Mutation.applyAll job.mutations stored.conditions = .ok conditions)
    (run : Runs (ofJob job) h calls ending h') :
    let s := h.store
    let allowed := job.policy.attempts
    let conflicts := s.conflictsAhead
    (conditions = stored.conditions →
      ending = .result (.ok ⟨conditions, false⟩) ∧
        h'.store = s.observe .get job.kind (some job.key)) ∧
    (conditions ≠ stored.conditions →
      (allowed ≤ conflicts →
        ending = .result (.error (.exhausted job.kind job.key allowed)) ∧
          h'.store = s.lose job.kind job.key allowed) ∧
      (conflicts < allowed → s.writeFaults.drop conflicts = [] →
        ending = .result (.ok ⟨conditions, true⟩) ∧
          h'.store = (s.lose job.kind job.key conflicts).commit job.kind job.key
            { stored with conditions := conditions } ∧
          h'.store.actions = s.actions ++ attemptRequests job.kind job.key (conflicts + 1) ∧
          h'.store.object? job.kind job.key =
            some (Resource.atVersion (s.versions + 1) { stored with conditions := conditions })) ∧
      (conflicts < allowed → ∀ fault later, s.writeFaults.drop conflicts = fault :: later →
        ending = .result (.error fault) ∧
          h'.store = s.lose job.kind job.key (conflicts + 1))) ∧
    ∀ kind key message, ending ≠ .result (.error (.conflict kind key message)) := by
  intro s allowed conflicts
  by_cases hsame : conditions = stored.conditions
  · rw [hsame] at applies
    obtain ⟨rfl, hstore⟩ := (attempt_ends sound run).keeps reads found applies
    rw [hsame]
    exact ⟨fun _ => ⟨rfl, hstore⟩, fun hchanged => absurd rfl hchanged, fun _ _ _ => nofun⟩
  · -- it comes to write, and goes on as the write faults ahead decide
    have tries : ComesToWrite job h.store stored conditions := ⟨reads, found, applies, hsame⟩
    have hfares : Fares job stored conditions 1 (allowed - 1) s h'.store ending :=
      attemptsFrom_fares untimed sound tries run
    have hallowed : 1 + (allowed - 1) = allowed := one_add_left job.policy
    refine ⟨fun heq => absurd heq hsame, fun _ => ⟨fun hall => ?_, fun hfew hclear => ?_,
      fun hfew fault later hnext => ?_⟩, hfares.not_conflict⟩
    · have hmore : allowed - 1 < conflicts := by omega
      have hlost : allowed - 1 + 1 = allowed := by omega
      have hexhausts := hfares.exhausts hmore
      rw [hallowed, hlost] at hexhausts
      exact hexhausts
    · obtain ⟨hending, hstore⟩ := hfares.writes (by omega) hclear
      refine ⟨hending, hstore, ?_, ?_⟩
      · rw [hstore, actions_commit_lose]
      · have hkey : stored.key = job.key := (sound.found found).1
        rw [hstore, object?_commit, ← hkey]
        exact object?_hold_self job.kind _ _
    · exact hfares.rejects (by omega) hnext

/-- A store with a member, two planted conflicts and a fault after them. -/
def besieged : MemoryStore :=
  let m := MemoryStore.empty.put .member ⟨⟨"m", none, none, none, [], none⟩, []⟩
  (m.2.plantConflicts 2).plantWriteFault (.transient "unreachable")

/-- The update that says of the member that it is ready. -/
def makeReady : UpdateJob :=
  ⟨.member, .cluster "m", [Mutation.set ⟨"Ready", .holds, "Joined", "", Instant.epoch⟩], .standard,
    none⟩

/-- Two conflicts are retried, and the third attempt ends with the fault that
follows them. -/
theorem retries_are_counted_besieged : ∃ calls h',
    Runs (ofJob makeReady) (Hub.start besieged 1 Instant.epoch) calls
        (.result (.error (.transient "unreachable"))) h' ∧
      h'.store = besieged.lose .member (.cluster "m") 3 ∧ besieged.writeFaults.length = 3 := by
  let hub : Hub MemoryStore := Hub.start besieged 1 Instant.epoch
  have hput := sound_empty.put .member ⟨⟨"m", none, none, none, [], none⟩, []⟩
  have hsound : hub.store.Sound := ⟨hput.written, hput.nodup⟩
  obtain ⟨stored, hstored, hnone⟩ : ∃ stored,
      hub.store.object? .member (.cluster "m") = some stored ∧ stored.conditions = [] :=
    ⟨_, rfl, by decide +kernel⟩
  have happly : Mutation.applyAll makeReady.mutations stored.conditions =
      .ok [⟨"Ready", .holds, "Joined", "", Instant.epoch⟩] := by rw [hnone]; rfl
  obtain ⟨calls, run⟩ := Runs.of_runAlone (ofJob makeReady) hub
  obtain ⟨-, hchanged, -⟩ := retries_are_counted hsound rfl rfl hstored happly run
  obtain ⟨-, -, hfault⟩ := hchanged (by rw [hnone]; decide)
  obtain ⟨hending, hstore⟩ := hfault (by decide) _ [] rfl
  rw [hending] at run
  exact ⟨calls, _, run, hstore, by decide⟩

end StatusUpdate

end ClusterFleet
