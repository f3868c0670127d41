import ClusterFleet.Hub.Runner
import ClusterFleet.Proofs.Sync.Reconcile

/-!
# Sync — what the runner does

The three things a runner does, each from its start to its end. A change
that a watch reports puts the sets it concerns into the queue
(`onMember_ends`, `onSet_ends`). Working on the next key is a
reconciliation of this key between its handing out and its release
(`processNext_ends`); a key whose reconciliation failed in a way that may
mend comes back.
-/

namespace ClusterFleet

open MemoryStore

variable {h h' : Hub MemoryStore} {calls : List Call} {key : Key}

/-! ## Changes -/

theorem mem_concerned {member : Resource} {previous : Option String} :
    key ∈ ClusterSet.concerned member previous ↔
      ∃ set, key = .cluster set ∧ (member.clusterSet? = some set ∨ previous = some set) := by
  unfold ClusterSet.concerned
  rw [List.mem_map]
  constructor
  · rintro ⟨set, hset, rfl⟩
    rcases List.mem_append.mp hset with hset | hset
    · exact ⟨set, rfl, .inl (Option.mem_toList.mp hset)⟩
    · exact ⟨set, rfl, .inr (Option.mem_toList.mp (List.mem_filter.mp hset).1)⟩
  · rintro ⟨set, rfl, hset⟩
    refine ⟨set, List.mem_append.mpr ?_, rfl⟩
    by_cases hcurrent : member.clusterSet? = some set
    · exact .inl (Option.mem_toList.mpr hcurrent)
    · refine .inr (List.mem_filter.mpr ⟨Option.mem_toList.mpr (hset.resolve_left hcurrent), ?_⟩)
      rw [Bool.not_eq_true', ← Bool.not_eq_true, List.contains_iff_mem]
      exact fun hmem => hcurrent (Option.mem_toList.mp hmem)

/-- Keys are added: they await their turn, and nothing but the queue
changes. -/
structure Hub.Added (keys : List Key) (h h' : Hub MemoryStore) : Prop where
  store : h'.store = h.store
  cache : h'.cache = h.cache
  grows : h.Grows h'
  awaits : h'.queue.dropped = h.queue.dropped → ∀ key ∈ keys, h'.Awaits key

theorem Runs.of_adds {keys : List Key} {ending : Hub.Ending Unit} (hq : h.queue.Sound)
    (hopen : h.queue.closed = false)
    (run : Runs (Program.each (fun key => .ask (.add key)) keys) h calls ending h') :
    ending = .result () ∧ h.Added keys h' ∧ rebuilds calls = [] := by
  induction keys generalizing h calls with
  | nil =>
    obtain ⟨rfl, rfl, rfl⟩ := run.of_done
    exact ⟨rfl, ⟨rfl, rfl, .refl hq hopen, fun _ key hkey => (nomatch hkey)⟩, rfl⟩
  | cons first rest ih =>
    obtain ⟨a, mid, later, answers, rfl, run⟩ := run.of_call
    obtain rfl : mid = h.add first :=
      (answers.eq (fun _ heq => nomatch heq) (fun heq => nomatch heq)).2
    obtain ⟨hgrows, hfirst⟩ := Hub.Grows.add hq hopen first
    obtain ⟨hending, hadded, hquiet⟩ := ih hgrows.sound hgrows.closed run
    have hwhole := hgrows.trans hadded.grows
    refine ⟨hending, ⟨hadded.store, hadded.cache, hwhole, fun heq key hkey => ?_⟩,
      (rebuilds_cons rfl later).trans hquiet⟩
    have hbefore := hgrows.dropped
    have hafter := hadded.grows.dropped
    have hdropped : h'.queue.dropped = (h.add first).queue.dropped := by omega
    rcases List.mem_cons.mp hkey with rfl | hkey
    · exact hadded.grows.awaits hdropped key hfirst
    · exact hadded.awaits hdropped key hkey

/-- The cache after a change of a member was reported: a member that is gone
is forgotten. -/
def Membership.after (change : Change) (c : Membership) : Membership :=
  match change with
  | .applied _ => c
  | .deleted member => c.forget member.name

theorem Membership.Sound.after {c : Membership} (h : c.Sound) (change : Change) :
    (c.after change).Sound := by
  cases change with
  | applied member => exact h
  | deleted member => exact h.forget member.name

/-- **A change of a member** puts the set that its label names and the one
it was cached under into the queue. -/
theorem onMember_ends {change : Change} {ending : Hub.Ending Unit} (hq : h.queue.Sound)
    (hopen : h.queue.closed = false)
    (run : Runs (Runner.onMember change) h calls ending h') :
    ending = .result () ∧ rebuilds calls = [] ∧
      Hub.Added (ClusterSet.concerned change.object (h.cache.get? change.object.name))
        { h with cache := h.cache.after change } h' := by
  cases change with
  | applied member =>
    obtain ⟨previous, mid, later, answers, rfl, run⟩ := run.of_call
    obtain ⟨rfl, rfl⟩ := answers.eq (fun _ heq => nomatch heq) (fun heq => nomatch heq)
    obtain ⟨hending, hadded, hquiet⟩ := Runs.of_adds hq hopen run
    exact ⟨hending, (rebuilds_cons rfl later).trans hquiet, hadded⟩
  | deleted member =>
    obtain ⟨previous, mid, later, answers, rfl, run⟩ := run.of_call
    obtain ⟨rfl, rfl⟩ := answers.eq (fun _ heq => nomatch heq) (fun heq => nomatch heq)
    obtain ⟨hending, hadded, hquiet⟩ := Runs.of_adds
      (h := { h with cache := h.cache.forget member.name }) hq hopen run
    exact ⟨hending, (rebuilds_cons rfl later).trans hquiet, hadded⟩

/-- **A change of a set** puts the set into the queue, unless it is gone. -/
theorem onSet_ends {change : Change} {ending : Hub.Ending Unit} (hq : h.queue.Sound)
    (hopen : h.queue.closed = false)
    (run : Runs (Runner.onSet change) h calls ending h') :
    ending = .result () ∧ rebuilds calls = [] ∧
      Hub.Added (match change with | .applied set => [set.key] | .deleted _ => []) h h' := by
  cases change with
  | applied set =>
    obtain ⟨a, mid, later, answers, rfl, run⟩ := run.of_call
    obtain ⟨-, rfl⟩ := answers.eq (fun _ heq => nomatch heq) (fun heq => nomatch heq)
    obtain ⟨rfl, rfl, rfl⟩ := run.of_done
    obtain ⟨hgrows, hset⟩ := Hub.Grows.add hq hopen set.key
    refine ⟨rfl, rfl, rfl, rfl, hgrows, fun _ key hkey => ?_⟩
    obtain rfl := List.mem_singleton.mp hkey
    exact hset
  | deleted set =>
    obtain ⟨rfl, rfl, rfl⟩ := run.of_done
    exact ⟨rfl, rfl, rfl, rfl, .refl hq hopen, fun _ key hkey => (nomatch hkey)⟩

/-! ## A turn -/

section Turn

variable {settings : Settings} {deadline : Option Moment}
variable {result : Except StoreError SyncOutcome}

/-- After a failure that may mend the key is added again. -/
theorem Runner.afterSync_retry {e : StoreError} (hretry : e.isRetryable = true) :
    afterSync settings key (.error e) =
      .call (.failed key) fun failures => .call (.count .requeues) fun _ =>
        .ask (.addAfter key (requeueDelay settings failures)) := if_pos hretry

/-- After any other result the failures are forgotten. -/
theorem Runner.afterSync_final (final : ∀ e, result = .error e → ¬e.isRetryable = true) :
    afterSync settings key result = .ask (.settled key) := by
  cases result with
  | ok outcome => rfl
  | error e => exact if_neg (final e rfl)

theorem addAfter_aside (h : Hub MemoryStore) (key : Key) (delay : Span) :
    (h.addAfter key delay).store = h.store ∧ (h.addAfter key delay).cache = h.cache := by
  unfold Hub.addAfter
  split
  · exact ⟨rfl, rfl⟩
  · exact ⟨rfl, rfl⟩

/-- After a reconciliation the failure is noted or forgotten, and a key whose
failure may mend is added again, at once or later. -/
theorem afterSync_ends {ending : Hub.Ending Unit} (hq : h.queue.Sound)
    (hopen : h.queue.closed = false)
    (run : Runs (Runner.afterSync settings key result) h calls ending h') :
    ending = .result () ∧ rebuilds calls = [] ∧ h'.store = h.store ∧ h'.cache = h.cache ∧
      h.Grows h' ∧ (∀ e, result = .error e → e.isRetryable = true → h'.Awaits key) := by
  by_cases hmends : ∃ e, result = .error e ∧ e.isRetryable = true
  · obtain ⟨e, rfl, hretry⟩ := hmends
    rw [Runner.afterSync_retry hretry] at run
    obtain ⟨failures, mid, later, alike, hcalls, run⟩ := run.of_remark (.failed key)
    obtain ⟨a, mid', later', alike', hcalls', run⟩ := run.of_remark (.count .requeues)
    obtain ⟨a', last, rest, answers, rfl, run⟩ := run.of_call
    obtain rfl : last = mid'.addAfter key (Runner.requeueDelay settings failures) :=
      (answers.eq (fun _ heq => nomatch heq) (fun heq => nomatch heq)).2
    obtain ⟨rfl, rfl, rfl⟩ := run.of_done
    have hto := alike.trans alike'
    have hgrows := hto.grows hq hopen
    obtain ⟨hadd, hawaits⟩ := Hub.Grows.addAfter hgrows.sound hgrows.closed key
      (Runner.requeueDelay settings failures)
    obtain ⟨hstore, hcache⟩ := addAfter_aside mid' key (Runner.requeueDelay settings failures)
    exact ⟨rfl, hcalls.trans (hcalls'.trans (rebuilds_cons rfl [])), hstore.trans hto.store,
      hcache.trans hto.cache, hgrows.trans hadd, fun _ _ _ => hawaits⟩
  · have final (e : StoreError) (heq : result = .error e) : ¬e.isRetryable = true :=
      fun hretry => hmends ⟨e, heq, hretry⟩
    rw [Runner.afterSync_final final] at run
    obtain ⟨a, mid, later, alike, hcalls, run⟩ := run.of_remark (.settled key)
    obtain ⟨rfl, rfl, rfl⟩ := run.of_done
    exact ⟨rfl, hcalls, alike.store, alike.cache, alike.grows hq hopen,
      fun e heq hretry => absurd hretry (final e heq)⟩

/-- The work on a key that was handed out. -/
def workOn (settings : Settings) (key : Key) (deadline : Option Moment) : Program Bool :=
  (ClusterSet.reconcile settings.prune settings.retry deadline key).bind fun result =>
    (Runner.afterSync settings key result).bind fun _ =>
      .call (.release key) fun _ => .done true

/-- **The work on a key** reconciles it and releases it, or breaks off with
the key in hand. -/
theorem workOn_ends {ending : Hub.Ending Bool} (hs : h.store.Sound) (hq : h.queue.Sound)
    (hopen : h.queue.closed = false)
    (run : Runs (workOn settings key deadline) h calls ending h') :
    (∃ result mid, ending = .result true ∧ SyncEnds settings.prune key h.store h'.store h.cache
        h'.cache (rebuilds calls) (.result result) ∧
      h.Grows mid ∧ h' = { mid with queue := mid.queue.done key } ∧
      ∀ e, result = .error e → e.isRetryable = true → mid.Awaits key) ∨
    (ending = .aborted ∧ SyncEnds settings.prune key h.store h'.store h.cache h'.cache
        (rebuilds calls) .aborted ∧ h.Grows h') := by
  cases run.of_bind with
  | aborted sync =>
    obtain ⟨hends, hgrows, -⟩ := reconcile_ends hs hq hopen sync
    exact .inr ⟨rfl, hends, hgrows⟩
  | stuck sync => exact absurd rfl (reconcile_ends hs hq hopen sync).2.2
  | @both result first later synced _ _ sync run =>
    obtain ⟨hends, hgrows, -⟩ := reconcile_ends hs hq hopen sync
    cases run.of_bind with
    | aborted after => cases (afterSync_ends hgrows.sound hgrows.closed after).1
    | stuck after => cases (afterSync_ends hgrows.sound hgrows.closed after).1
    | @both a told last mid _ _ after run =>
      obtain ⟨-, hquiet, hstore, hcache, hgrown, hagain⟩ :=
        afterSync_ends hgrows.sound hgrows.closed after
      obtain ⟨a', released, rest, answers, rfl, run⟩ := run.of_call
      obtain rfl : released = { mid with queue := mid.queue.done key } :=
        (answers.eq (fun _ heq => nomatch heq) (fun heq => nomatch heq)).2
      obtain ⟨rfl, rfl, rfl⟩ := run.of_done
      have hcalls : rebuilds (first ++ (told ++ [.release key])) = rebuilds first := by
        rw [rebuilds_append, rebuilds_append, hquiet, rebuilds_cons rfl []]
        exact List.append_nil _
      refine .inl ⟨result, mid, rfl, ?_, hgrows.trans hgrown, rfl, hagain⟩
      rw [hcalls]
      change SyncEnds settings.prune key h.store mid.store h.cache mid.cache _ _
      rw [hstore, hcache]
      exact hends

/-- **What working on the next key has done**, with the rebuilds of the
cache, by how it ended. -/
inductive TurnEnds (settings : Settings) (h h' : Hub MemoryStore) :
    List (String × List String) → Hub.Ending Bool → Prop
  | stuck (empty : h.queue.order = []) (same : h' = h) : TurnEnds settings h h' [] .stuck
  /-- A key was reconciled and released; it comes back if this failed and may
  mend. -/
  | worked {key : Key} {rest : List Key} {result : Except StoreError SyncOutcome}
      {log : List (String × List String)} (waits : h.queue.order = key :: rest)
      (ends : SyncEnds settings.prune key h.store h'.store h.cache h'.cache log (.result result))
      (turned : h.Turned key h')
      (again : ∀ e, result = .error e → e.isRetryable = true →
        h'.queue.dropped = h.queue.dropped → h'.Awaits key) :
      TurnEnds settings h h' log (.result true)
  /-- The deadline would lie beyond the range of the clock. -/
  | late {key : Key} {rest : List Key} {span : Span} (waits : h.queue.order = key :: rest)
      (limit : settings.syncTimeout = some span) (beyond : h.clock.after? span = none)
      (store : h'.store = h.store) (cache : h'.cache = h.cache) (turned : h.Turned key h')
      (held : key ∈ h'.queue.processing) : TurnEnds settings h h' [] .aborted
  | broken {key : Key} {rest : List Key} {log : List (String × List String)}
      (waits : h.queue.order = key :: rest)
      (ends : SyncEnds settings.prune key h.store h'.store h.cache h'.cache log .aborted)
      (turned : h.Turned key h') (held : key ∈ h'.queue.processing) :
      TurnEnds settings h h' log .aborted

/-- The work on a key, from its handing out. -/
theorem TurnEnds.of_workOn {rest : List Key} {ending : Hub.Ending Bool} {mid : Hub MemoryStore}
    (hs : h.store.Sound) (hq : h.queue.Sound) (hopen : h.queue.closed = false)
    (waits : h.queue.order = key :: rest) (alike : (h.handOut key rest).Alike mid)
    (run : Runs (workOn settings key deadline) mid calls ending h') :
    TurnEnds settings h h' (rebuilds calls) ending := by
  have hout : (h.handOut key rest).queue.Sound := Hub.handOut_sound hq waits
  have hto : (h.handOut key rest).Grows mid := alike.grows hout hopen
  have hstore : mid.store = h.store := alike.store
  have hcache : mid.cache = h.cache := alike.cache
  have hsound : mid.store.Sound := by rw [hstore]; exact hs
  obtain ⟨result, last, rfl, hends, hgrows, rfl, hagain⟩ | ⟨rfl, hends, hgrows⟩ :=
    workOn_ends hsound hto.sound hto.closed run
  · rw [hstore, hcache] at hends
    have hturned := Hub.Turned.of_grows waits (hto.trans hgrows)
    refine .worked waits hends hturned.done fun e heq hmends hdropped => ?_
    have hdone := (WorkQueue.done_dropped hturned.closed key).1
    have hwhole := hturned.dropped
    change (last.queue.done key).dropped = h.queue.dropped at hdropped
    exact Hub.awaits_done hturned.closed (by omega) (hagain e heq hmends)
  · rw [hstore, hcache] at hends
    have hwhole := hto.trans hgrows
    exact .broken waits hends (.of_grows waits hwhole)
      (hwhole.processing key (Hub.mem_processing_handOut key rest h))

/-- Work with a deadline is the work, or is broken off at once when the clock
does not reach the deadline. -/
theorem of_withDeadline {α : Type} {timeout : Option Span} {work : Option Moment → Program α}
    {ending : Hub.Ending α} (run : Runs (Runner.withDeadline timeout work) h calls ending h') :
    (∃ deadline later, rebuilds calls = rebuilds later ∧ Runs (work deadline) h later ending h') ∨
      (∃ span, timeout = some span ∧ h.clock.after? span = none ∧ ending = .aborted ∧
        rebuilds calls = [] ∧ h' = h) := by
  unfold Runner.withDeadline at run
  split at run
  · exact .inl ⟨none, calls, rfl, run⟩
  · rename_i span
    obtain ⟨now, mid, later, answers, rfl, run⟩ := run.of_call
    obtain ⟨rfl, rfl⟩ := answers.eq (fun _ heq => nomatch heq) (fun heq => nomatch heq)
    have hquiet := rebuilds_cons (c := .clock) rfl later
    split at run
    · rename_i deadline _
      exact .inl ⟨some deadline, later, hquiet, run⟩
    · rename_i hbeyond
      obtain ⟨rfl, rfl, rfl⟩ := run.of_abort
      exact .inr ⟨span, rfl, hbeyond, rfl, hquiet, rfl⟩

/-- **Working on the next key.** -/
theorem processNext_ends {ending : Hub.Ending Bool} (hs : h.store.Sound) (hq : h.queue.Sound)
    (hopen : h.queue.closed = false)
    (run : Runs (Runner.processNext settings) h calls ending h') :
    TurnEnds settings h h' (rebuilds calls) ending := by
  unfold Runner.processNext at run
  -- the queue is open, so a worker gets a key or waits
  cases horder : h.queue.order with
  | nil =>
    have hpop : h.queue.pop = (.wait, h.queue) := by
      rw [WorkQueue.pop_of_nil horder, hopen]
      rfl
    rcases run.of_take with ⟨key, queue, pop, -⟩ | ⟨queue, pop, -⟩ | ⟨queue, -, rfl, rfl, rfl⟩
    · cases hpop.symm.trans pop
    · cases hpop.symm.trans pop
    · exact .stuck horder rfl
  | cons key rest =>
    have hpop := WorkQueue.pop_of_order horder
    rcases run.of_take with ⟨key', queue, pop, run⟩ | ⟨queue, pop, -⟩ | ⟨queue, pop, -⟩
    · obtain ⟨hkey, rfl⟩ := Prod.mk.inj (hpop.symm.trans pop)
      obtain rfl := WorkQueue.Delivery.key.inj hkey
      change Runs (Runner.withDeadline settings.syncTimeout (workOn settings key))
        (h.handOut key rest) calls ending h' at run
      obtain ⟨deadline, later, hcalls, run⟩ | ⟨span, hlimit, hbeyond, rfl, hquiet, rfl⟩ :=
        of_withDeadline run
      · rw [hcalls]
        exact .of_workOn hs hq hopen horder ⟨rfl, rfl, rfl, rfl⟩ run
      · rw [hquiet]
        exact .late horder hlimit hbeyond rfl rfl
          (.of_grows horder (.refl (Hub.handOut_sound hq horder) hopen))
          (Hub.mem_processing_handOut key rest h)
    · cases hpop.symm.trans pop
    · cases hpop.symm.trans pop

end Turn

end ClusterFleet
