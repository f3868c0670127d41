import ClusterFleet.Proofs.Hub.Settings
import ClusterFleet.Proofs.Sync.Redelivery
import Mathlib.Algebra.Group.Nat.Defs

/-!
# Sync — after how long a failed key comes back

The record of failures counts, for each key, the failures in a row: those
that may mend, since the last result that has nothing to mend (`streak`,
`CrewRun.failuresOf`). From this the delay of the next one follows, in
exact numbers (`Runner.backoff`): though the product with a power of two is
held to the range of spans, it is the exact one wherever the maximum does
not cut it off (`Runner.requeueDelay_eq`).

`backoff_is_exact` says what this comes to along the runs of a crew,
however its turns interleave.
-/

namespace ClusterFleet

open Program

/-! ## Delays -/

namespace Runner

variable {settings : Settings} {m n : ℕ}

/-- **The delay after a failure** that comes after others in a row: the
base, doubled for each of the others but at most thirty times, and not
beyond the maximum. -/
def backoff (settings : Settings) (n : ℕ) : Span :=
  ⟨min (settings.requeueBase.nanos * 2 ^ min n 30) settings.requeueMax.nanos⟩

/-- **No delay is lost to the range of spans**: what is beyond it is beyond
the maximum. -/
theorem requeueDelay_eq (range : settings.requeueMax ≤ Span.longest) (n : ℕ) :
    requeueDelay settings n = backoff settings n := by
  have hrange : settings.requeueMax.nanos ≤ Span.longest.nanos := range
  -- the product is cut off twice, and the second time at least as low
  have hcut (exact : ℕ) : min (min exact Span.longest.nanos) settings.requeueMax.nanos =
      min exact settings.requeueMax.nanos := by omega
  exact congrArg Span.mk (hcut (settings.requeueBase.nanos * 2 ^ min n 30))

theorem backoff_mono (h : m ≤ n) : backoff settings m ≤ backoff settings n := by
  have hpow : 2 ^ min m 30 ≤ 2 ^ min n 30 := Nat.pow_le_pow_right (by decide) (by omega)
  have hexact := Nat.mul_le_mul_left settings.requeueBase.nanos hpow
  show min _ settings.requeueMax.nanos ≤ min _ settings.requeueMax.nanos
  omega

theorem backoff_le (settings : Settings) (n : ℕ) : backoff settings n ≤ settings.requeueMax :=
  Nat.min_le_right (settings.requeueBase.nanos * 2 ^ min n 30) settings.requeueMax.nanos

theorem backoff_zero (settings : Settings) :
    backoff settings 0 = settings.requeueBase.shorter settings.requeueMax := by
  rw [backoff, Nat.zero_min, Nat.pow_zero, Nat.mul_one]
  rfl

end Runner

/-- A maximum that the environment sets is in the range of spans. -/
theorem Settings.requeueMax_ofEnvironment (env : Environment) :
    (ofEnvironment env).requeueMax ≤ Span.longest := by
  change seconds env "HUB_REQUEUE_MAX_SECS" standard.requeueMax ≤ Span.longest
  rw [seconds]
  cases hword : word? 64 env "HUB_REQUEUE_MAX_SECS" with
  | none => decide
  | some n =>
    obtain ⟨text, -, cs, -, -, hrange⟩ := word?_eq_some_iff.1 hword
    have hmax : (2 ^ 64 - 1) * Span.perSecond ≤ Span.longest.nanos := by decide
    exact Nat.le_trans (Nat.mul_le_mul_right Span.perSecond (Nat.le_sub_one_of_lt hrange)) hmax

/-! ## Failures in a row -/

instance (result : Except StoreError SyncOutcome) : Decidable (MayMend result) :=
  match result with
  | .ok _ => isFalse fun ⟨_, heq, _⟩ => nomatch heq
  | .error e => decidable_of_iff (e.isRetryable = true)
      ⟨fun hretry => ⟨e, rfl, hretry⟩, fun ⟨_, heq, hretry⟩ => Except.error.inj heq ▸ hretry⟩

/-- The results of the work on a key, in order. -/
def resultsOf (key : Key) (turns : List CrewTurn) : List (Except StoreError SyncOutcome) :=
  turns.filterMap (CrewTurn.result? key)

/-- **The failures in a row** of a key: those that may mend, since its last
result that is none of them, or since the start. -/
def streak (key : Key) (turns : List CrewTurn) : ℕ :=
  ((resultsOf key turns).reverse.takeWhile fun result => decide (MayMend result)).length

section Streak

variable {key k : Key} {turns earlier later : List CrewTurn} {t : CrewTurn}
variable {result : Except StoreError SyncOutcome}

theorem streak_of_results {results : List (Except StoreError SyncOutcome)}
    (h : resultsOf key turns = results ++ [result]) : streak key turns =
      if MayMend result then
        (results.reverse.takeWhile fun result => decide (MayMend result)).length + 1
      else 0 := by
  rw [streak, h, List.reverse_append, List.reverse_singleton, List.singleton_append,
    List.takeWhile_cons]
  by_cases hmends : MayMend result
  · rw [if_pos hmends, decide_eq_true hmends, if_pos rfl, List.length_cons]
  · rw [if_neg hmends, decide_eq_false hmends]
    rfl

/-- **One more turn** goes on with a streak, breaks it off, or has nothing
to do with it. -/
theorem streak_snoc (key : Key) (turns : List CrewTurn) (t : CrewTurn) :
    streak key (turns ++ [t]) =
      match t.result? key with
      | none => streak key turns
      | some result => if MayMend result then streak key turns + 1 else 0 := by
  have happend : resultsOf key (turns ++ [t]) =
      resultsOf key turns ++ (t.result? key).toList := by
    rw [resultsOf, List.filterMap_append]
    cases hresult : t.result? key <;> simp [hresult, resultsOf]
  cases hresult : t.result? key with
  | none =>
    rw [hresult, Option.toList_none, List.append_nil] at happend
    rw [streak, happend, streak]
  | some result =>
    rw [hresult, Option.toList_some] at happend
    exact streak_of_results happend

/-- Within a streak the failures only become more. -/
theorem streak_le (h : ∀ result ∈ resultsOf key later, MayMend result) :
    streak key earlier ≤ streak key (earlier ++ later) := by
  induction later generalizing earlier with
  | nil => simp
  | cons t later ih =>
    have hfirst : streak key earlier ≤ streak key (earlier ++ [t]) := by
      rw [streak_snoc]
      cases hresult : t.result? key with
      | none => exact Nat.le_refl _
      | some result =>
        have hmem : result ∈ resultsOf key (t :: later) := by simp [resultsOf, hresult]
        simp only [if_pos (h result hmem)]
        omega
    have hrest : ∀ result ∈ resultsOf key later, MayMend result := fun result hresult =>
      h result (List.mem_filterMap.2
        ((List.mem_filterMap.1 hresult).imp fun _ ht => ht.imp_left (List.mem_cons_of_mem t)))
    rw [List.append_cons]
    exact Nat.le_trans hfirst (ih hrest)

/-- **No failure in a row** after a result that has nothing to mend, and at
the start. -/
theorem streak_eq_zero (h : ∀ result ∈ lastResult key turns, ¬MayMend result) :
    streak key turns = 0 := by
  rcases List.eq_nil_or_concat (resultsOf key turns) with hnil | ⟨results, result, hlast⟩
  · rw [streak, hnil]
    rfl
  · rw [List.concat_eq_append] at hlast
    have hresult : result ∈ lastResult key turns := by
      rw [lastResult, show turns.filterMap _ = results ++ [result] from hlast]
      simp
    rw [streak_of_results hlast, if_neg (h result hresult)]

theorem streak_le_length (key : Key) (turns : List CrewTurn) :
    streak key turns ≤ (resultsOf key turns).length := by
  rw [← List.length_reverse]
  exact (List.takeWhile_prefix _).length_le

end Streak

/-! ## The count of failures -/

section Crew

variable {σ : Type} {h h' : Hub σ} {key k : Key}

namespace Hub

theorem failuresOf_congr (heq : h'.failures = h.failures) (k : Key) :
    h'.failuresOf k = h.failuresOf k := by
  rw [failuresOf, failuresOf, heq]

theorem failuresOf_forgetFailures (h : Hub σ) (key k : Key) :
    (h.forgetFailures key).failuresOf k = if k = key then 0 else h.failuresOf k := by
  unfold failuresOf forgetFailures
  rw [List.find?_filter]
  by_cases hkey : k = key
  · rw [if_pos hkey, List.find?_eq_none.2 (by rintro p -; simp [hkey])]
    rfl
  · have hsame (p : Key × ℕ) : (p.1 ≠ key ∧ p.1 = k) ↔ p.1 = k :=
      and_iff_right_of_imp fun hp => hp ▸ hkey
    simp only [decide_eq_true_eq, hsame, if_neg hkey]

theorem failuresOf_noteFailure (h : Hub σ) (key k : Key) :
    (h.noteFailure key).failuresOf k =
      if k = key then h.failuresOf key + 1 else h.failuresOf k := by
  have hcons : (h.noteFailure key).failuresOf k =
      if key = k then h.failuresOf key + 1 else (h.forgetFailures key).failuresOf k := by
    rw [failuresOf, noteFailure, List.find?_cons]
    by_cases hkey : key = k
    · rw [if_pos hkey, decide_eq_true hkey]
      rfl
    · rw [if_neg hkey, decide_eq_false hkey]
      rfl
  rw [hcons, failuresOf_forgetFailures]
  by_cases hkey : k = key
  · rw [if_pos hkey.symm, if_pos hkey]
  · rw [if_neg (Ne.symm hkey), if_neg hkey, if_neg hkey]

end Hub

/-- **The end of a turn counts for its key** and no other. -/
theorem Concluded.failuresOf {result : Except StoreError SyncOutcome}
    (concluded : Concluded key h h' result) (k : Key) : h'.failuresOf k =
      if k = key then if MayMend result then h.failuresOf key + 1 else 0
      else h.failuresOf k := by
  cases concluded with
  | settled final queue delayed failures =>
    have hfinal : ¬MayMend result := fun ⟨e, heq, hretry⟩ => final e heq hretry
    rw [Hub.failuresOf_congr failures, Hub.failuresOf_forgetFailures, if_neg hfinal]
  | @again e retry failures added =>
    have hmends : MayMend (.error e) := ⟨e, rfl, retry⟩
    rw [Hub.failuresOf_congr failures, Hub.failuresOf_noteFailure, if_pos hmends]

variable [Authority σ] {settings : Settings} {crew crew' start : Crew σ} {turns : List CrewTurn}

theorem CrewStep.requeued {e : StoreError}
    (step : CrewStep settings crew (.finished key (.error e)) crew')
    (hretry : e.isRetryable = true) : crew'.hub =
      crew.hub.requeued key (Runner.requeueDelay settings (crew.hub.failuresOf key)) := by
  cases step with
  | finished run => exact (run.of_requeued hretry).2

theorem CrewStep.settled {result : Except StoreError SyncOutcome}
    (step : CrewStep settings crew (.finished key result) crew') (final : ¬MayMend result) :
    crew'.hub = crew.hub.settled key := by
  cases step with
  | finished run => exact (run.of_settled fun e heq hretry => final ⟨e, heq, hretry⟩).2

/-- Work that has a result comes to the end of its turn. -/
theorem exists_finished {before after : List Job} (h : Hub σ) (key : Key)
    (result : Except StoreError SyncOutcome) : ∃ h' : Hub σ,
      CrewStep settings ⟨h, before ++ ⟨key, .done result⟩ :: after⟩ (.finished key result)
        ⟨h', before ++ after⟩ := by
  obtain ⟨calls, run⟩ := Runs.of_runAlone (Runner.conclude settings key result) h
  have hend : (Hub.runAlone (Runner.conclude settings key result) h).1 = .result true := by
    by_cases hmends : MayMend result
    · obtain ⟨e, rfl, hretry⟩ := hmends
      exact (run.of_requeued hretry).1
    · exact (run.of_settled fun e heq hretry => hmends ⟨e, heq, hretry⟩).1
  exact ⟨_, .finished (hend ▸ run)⟩

/-- **The record of failures counts the failures in a row** of every key. -/
theorem CrewRun.failuresOf (run : CrewRun settings start turns crew) (hs : start.Sound)
    (hstart : start.hub.failures = []) (key : Key) :
    crew.hub.failuresOf key = streak key turns := by
  induction run with
  | start =>
    rw [Hub.failuresOf, hstart]
    rfl
  | @step turns crew crew' event run step ih =>
    rw [streak_snoc, CrewTurn.result?]
    cases event with
    | finished k result =>
      have hconcluded : Concluded k crew.hub crew'.hub result := by
        cases step with
        | finished ends => exact ends.concluded
      rw [hconcluded.failuresOf]
      by_cases hkey : k = key
      · subst hkey
        simp only [if_pos, ih]
      · simp only [if_neg hkey, if_neg (Ne.symm hkey), ih]
    | _ =>
      have hsame : crew'.hub.failures = crew.hub.failures :=
        step.failures (run.sound hs) (by rintro k result ⟨⟩)
      exact (Hub.failuresOf_congr hsame key).trans ih

/-! ## Backoff -/

/-- **How a key backs off** in a crew that has come this far. -/
structure BacksOff (settings : Settings) (turns : List CrewTurn) (crew : Crew σ) (key : Key) :
    Prop where
  counted : crew.hub.failuresOf key = streak key turns
  bounded : streak key turns ≤ (resultsOf key turns).length
  /-- A failure that may mend has the key queued again, after exactly the
  delay that the failures in a row before it ask for. -/
  again : ∀ (e : StoreError) (crew' : Crew σ),
    CrewStep settings crew (.finished key (.error e)) crew' → e.isRetryable = true →
      crew'.hub = crew.hub.requeued key (Runner.backoff settings (streak key turns))
  /-- After any other result it is not queued again. -/
  settles : ∀ (result : Except StoreError SyncOutcome) (crew' : Crew σ),
    CrewStep settings crew (.finished key result) crew' → ¬MayMend result →
      crew'.hub = crew.hub.settled key
  /-- Work that has a result comes to the end of its turn. -/
  ends : ∀ (before after : List Job) (result : Except StoreError SyncOutcome),
    crew.jobs = before ++ ⟨key, .done result⟩ :: after →
      ∃ crew' : Crew σ, CrewStep settings crew (.finished key result) crew'
  /-- Within a streak no delay is shorter than one before it. -/
  rises : ∀ earlier later, turns = earlier ++ later →
    (∀ result ∈ resultsOf key later, MayMend result) →
      Runner.backoff settings (streak key earlier) ≤ Runner.backoff settings (streak key turns)
  capped : Runner.backoff settings (streak key turns) ≤ settings.requeueMax
  /-- At the start, and after a result that has nothing to mend, the delay
  is the base again. -/
  restarts : (∀ result ∈ lastResult key turns, ¬MayMend result) →
    Runner.backoff settings (streak key turns) = settings.requeueBase.shorter settings.requeueMax
  /-- Wherever the key has had the same results, whatever else has happened,
  the delay is the same. -/
  alone : ∀ (store : σ) (capacity : ℕ) (calendar : Instant) (turns' : List CrewTurn)
    (other : Crew σ), CrewRun settings ⟨Hub.start store capacity calendar, []⟩ turns' other →
      resultsOf key turns' = resultsOf key turns →
        Runner.requeueDelay settings (other.hub.failuresOf key) =
          Runner.backoff settings (streak key turns)

/-- **The backoff of every key is exact**, along every run of a crew, if the
maximum is a span at all, as every one is that the environment sets. A key
that fails in a way that may mend is queued again after exactly the base,
doubled for each failure in a row before this one but at most thirty times,
and cut off at the maximum. So the delays of a streak never become shorter,
and they start again with the base; what happens to other keys has no part
in it. -/
theorem backoff_is_exact {store : σ} {capacity : ℕ} {calendar : Instant}
    (range : settings.requeueMax ≤ Span.longest)
    (run : CrewRun settings ⟨Hub.start store capacity calendar, []⟩ turns crew) :
    (Runner.processNext settings = take fun
      | none => done false
      | some key => (Runner.sync settings key).bind (Runner.conclude settings key)) ∧
    (∀ env, (Settings.ofEnvironment env).requeueMax ≤ Span.longest) ∧
    ∀ key, BacksOff settings turns crew key := by
  refine ⟨processNext_eq settings, Settings.requeueMax_ofEnvironment, fun key => ?_⟩
  -- what the runner counts is the streak, so the delay depends on the turns of this key alone
  have hcounted : crew.hub.failuresOf key = streak key turns :=
    run.failuresOf (Crew.sound_start store capacity calendar) rfl key
  refine ⟨hcounted, streak_le_length key turns, fun e crew' step hretry => ?again,
    fun result crew' step final => step.settled final, ?ends, ?rises, Runner.backoff_le settings _,
    fun hlast => ?restarts, ?alone⟩
  case again =>
    rw [step.requeued hretry, hcounted, Runner.requeueDelay_eq range]
  case ends =>
    intro before after result hjobs
    obtain ⟨hub, jobs⟩ := crew
    obtain rfl : jobs = before ++ ⟨key, .done result⟩ :: after := hjobs
    obtain ⟨h', step⟩ := exists_finished hub key result
    exact ⟨_, step⟩
  case rises =>
    rintro earlier later rfl hmends
    exact Runner.backoff_mono (streak_le hmends)
  case restarts =>
    rw [streak_eq_zero hlast, Runner.backoff_zero]
  case alone =>
    intro store' capacity' calendar' turns' other run' hsame
    have hother : other.hub.failuresOf key = streak key turns' :=
      run'.failuresOf (Crew.sound_start store' capacity' calendar') rfl key
    rw [hother, streak, hsame, Runner.requeueDelay_eq range, streak]

end Crew

namespace InARow

/-- A hub over a store with a set, of which two reads fail in a way that may
mend. -/
def hub : Hub MemoryStore :=
  let set : Resource := ⟨⟨"a", none, none, none, [], none⟩, []⟩
  let store := (MemoryStore.empty.put .set set).2
  let faulty := (store.plantReadFault (.transient "slow")).plantReadFault (.transient "slow")
  Hub.start faulty 1 Instant.epoch

/-- The work on the key of the set up to its result, on a hub where nothing
waits. -/
def worked (h : Hub MemoryStore) : Program (Except StoreError SyncOutcome) × Hub MemoryStore :=
  (Runner.sync Settings.standard Release.setKey).advance 8
    ((h.add Release.setKey).handOut Release.setKey [])

/-- The failure of the reads. -/
def slow : Except StoreError SyncOutcome := .error (.transient "slow")

/-- What follows it. -/
def concluded (h : Hub MemoryStore) : Hub MemoryStore :=
  (Hub.runAlone (Runner.conclude Settings.standard Release.setKey slow) (worked h).2).2

/-- One turn of the key up to the result of the work. -/
theorem exists_worked {turns : List CrewTurn} {h : Hub MemoryStore}
    (run : CrewRun Settings.standard ⟨hub, []⟩ turns ⟨h, []⟩)
    (pop : (h.add Release.setKey).queue.pop =
      (.key Release.setKey, ((h.add Release.setKey).handOut Release.setKey []).queue))
    (fails : (worked h).1 = .done slow) :
    ∃ turns', CrewRun Settings.standard ⟨hub, []⟩ turns'
      ⟨(worked h).2, [⟨Release.setKey, .done slow⟩]⟩ := by
  have taken := run
    |>.step (.around (.added _ Release.setKey) trivial)
    |>.step (.delivered pop)
  obtain ⟨later, working⟩ := taken.advance 8
  change CrewRun Settings.standard ⟨hub, []⟩ _
    ⟨(worked h).2, [] ++ ⟨Release.setKey, (worked h).1⟩ :: []⟩ at working
  exact ⟨_, fails ▸ working⟩

end InARow

open InARow in
/-- The second failure in a row has the key queued again after twice the
base. -/
theorem backoff_is_exact_second : ∃ turns crew crew',
    CrewRun Settings.standard ⟨hub, []⟩ turns crew ∧
      CrewStep Settings.standard crew (.finished Release.setKey slow) crew' ∧
      crew'.hub = crew.hub.requeued Release.setKey (Span.ofMillis 10) := by
  obtain ⟨turns, first⟩ := exists_worked .start rfl rfl
  obtain ⟨calls, ends⟩ := Runs.of_runAlone
    (Runner.conclude Settings.standard Release.setKey slow) (worked hub).2
  have once : CrewRun Settings.standard ⟨hub, []⟩ _ ⟨concluded hub, []⟩ :=
    first.step (@CrewStep.finished _ _ _ _ _ [] [] _ _ _ ends)
  obtain ⟨turns', second⟩ := exists_worked once rfl rfl
  obtain ⟨-, -, backsOff⟩ := backoff_is_exact (by decide) second
  obtain ⟨crew', step⟩ := (backsOff Release.setKey).ends [] [] slow rfl
  have hstreak : streak Release.setKey turns' = 1 :=
    (backsOff Release.setKey).counted.symm.trans (by decide +kernel)
  refine ⟨turns', _, crew', second, step, ?_⟩
  rw [(backsOff Release.setKey).again _ crew' step rfl, hstreak]
  rfl

end ClusterFleet
