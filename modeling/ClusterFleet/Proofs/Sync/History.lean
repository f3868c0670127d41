import ClusterFleet.Proofs.Object.History
import ClusterFleet.Proofs.Store.Versions
import ClusterFleet.Proofs.Sync.Tombstone

/-!
# Sync — the history of a status

Any number of clients share one store, each with an update or a
reconciliation under way, and their steps fall in any order among the
requests of others (`CrowdStep`). Only clients write one object. Each of
them writes what the conditions it sets make of a state that it has read
(`safe_program`), and a write succeeds only on the state that is stored; so
every version of the object is made from the version before it by setting
conditions (`Renewed`). What setting conditions does to a list thus holds
along the whole history of the object, whatever clients hold in hand, and
that is `transition_times_never_go_back`.
-/

namespace ClusterFleet

open MemoryStore StatusUpdate Program Condition

/-! ## Clients -/

/-- What a client is asked to do. -/
inductive Charge where
  /-- To set conditions on an object, one after another. -/
  | update (kind : Kind) (key : Key) (desired : List Condition) (policy : RetryPolicy)
      (deadline : Option Moment)
  /-- To reconcile a set. -/
  | reconcile (prune : Bool) (policy : RetryPolicy) (deadline : Option Moment) (key : Key)

namespace Charge

/-- The program of a charge; what it comes to is left out. -/
def program : Charge → Program Unit
  | update kind key desired policy deadline =>
    (StatusUpdate.run kind key (desired.map Mutation.set) policy deadline).bind fun _ => .done ()
  | reconcile prune policy deadline key =>
    (ClusterSet.reconcile prune policy deadline key).bind fun _ => .done ()

/-- The conditions that a charge sets on an object with one write. -/
inductive Sets : Charge → Kind → Key → List Condition → Prop
  | update (kind : Kind) (key : Key) (desired : List Condition) (policy : RetryPolicy)
      (deadline : Option Moment) : Sets (.update kind key desired policy deadline) kind key desired
  | reconcile (prune : Bool) (policy : RetryPolicy) (deadline : Option Moment) (key : Key)
      (n : Nat) (now : Instant) :
      Sets (.reconcile prune policy deadline key) .set key [ClusterSet.emptyCondition n now]

variable {charge : Charge} {trace first : List Exchange} {c : Call}

/-- A status write sets conditions of the charge on a state of the object
that was read. -/
def SetsRead (charge : Charge) (trace : List Exchange) (c : Call) : Prop :=
  ∀ kind object, c = .updateStatus kind object → ∃ key read conditions desired,
    .found kind key read ∈ trace ∧ charge.Sets kind key desired ∧
    Mutation.applyAll (desired.map Mutation.set) read.conditions = .ok conditions ∧
    object = { read with conditions := conditions }

/-- What an update writes sets the conditions of a charge, if its
mutations are these. -/
theorem SetsRead.of_writesRead {job : UpdateJob} {desired : List Condition}
    (sets : charge.Sets job.kind job.key desired)
    (mutations : job.mutations = desired.map Mutation.set)
    (writes : WritesRead job first trace c) : charge.SetsRead trace c := by
  intro kind object heq
  obtain ⟨rfl, between, read, conditions, rfl, happly, rfl⟩ := writes kind object heq
  refine ⟨job.key, read, conditions, desired, ?_, sets, mutations ▸ happly, rfl⟩
  exact List.mem_append_right _ (List.mem_singleton.2 rfl)

/-- **What a client writes** are conditions of its charge, set on a state
that it has read. -/
theorem safe_program (charge : Charge) :
    charge.program.Safe charge.SetsRead (fun _ _ => True) [] := by
  cases charge with
  | update kind key desired policy deadline =>
    have safe := rereads_ofJob ⟨kind, key, desired.map Mutation.set, policy, deadline⟩ []
    refine Safe.bind (safe.mono (fun trace c writes => ?_) fun _ _ _ => trivial)
    exact .of_writesRead (.update kind key desired policy deadline) rfl writes
  | reconcile prune policy deadline key =>
    refine Safe.bind ((safe_reconcile prune ⟨fun hc => ?_, fun _ _ writes => ?_⟩).mono
      (fun _ _ => id) fun _ _ _ => trivial)
    · exact fun kind object heq => absurd heq (hc kind object)
    · exact .of_writesRead (.reconcile prune policy deadline key _ _) rfl writes

end Charge

/-- A client under way. -/
structure Client where
  charge : Charge
  /-- What it has yet to do. -/
  program : Program Unit

/-- A client goes by what it has read: all that it has in hand is a state of
an object that was stored once. -/
def Client.Informed (client : Client) (s : MemoryStore) : Prop :=
  ∃ trace, client.program.Safe client.charge.SetsRead (fun _ _ => True) trace ∧
    ∀ kind key read, .found kind key read ∈ trace → s.IsKnown kind key read

/-- The clients of a hub. -/
structure Crowd where
  hub : Hub MemoryStore
  /-- The clients, in the order in which they began. -/
  clients : List Client

/-- One thing that happens in a crowd. -/
inductive CrowdTurn where
  /-- A client begins. -/
  | called (charge : Charge)
  /-- A client takes a step. -/
  | stepped (id : Nat)
  /-- Somebody else does something to the store. -/
  | asked (op : Operation)
  | passed

/-- One turn of a crowd. Others may do to the store what they like, but do
not write one object. -/
inductive CrowdStep (kind : Kind) (key : Key) : Crowd → CrowdTurn → Crowd → Prop
  | called (w : Crowd) (charge : Charge) :
      CrowdStep kind key w (.called charge)
        { w with clients := w.clients ++ [⟨charge, charge.program⟩] }
  | stepped {w : Crowd} {id : Nat} {client : Client} {c : Option Call} {p : Program Unit}
      {hub : Hub MemoryStore} (found : w.clients[id]? = some client)
      (step : Step client.program w.hub c p hub) :
      CrowdStep kind key w (.stepped id) ⟨hub, w.clients.set id { client with program := p }⟩
  | asked {w : Crowd} (op : Operation)
      (leaves : (op.run w.hub.store).object? kind key = w.hub.store.object? kind key) :
      CrowdStep kind key w (.asked op) { w with hub := { w.hub with store := op.run w.hub.store } }
  | passed {w : Crowd} {hub : Hub MemoryStore} (passes : w.hub.Passes hub) :
      CrowdStep kind key w .passed { w with hub := hub }

/-- A crowd that comes from another by turns. -/
inductive CrowdRun (kind : Kind) (key : Key) (start : Crowd) : Crowd → Prop
  | start : CrowdRun kind key start start
  | step {w w' : Crowd} {t : CrowdTurn} :
      CrowdRun kind key start w → CrowdStep kind key w t w' → CrowdRun kind key start w'

/-! ## One turn -/

section Turns

variable {kind kind' : Kind} {key key' : Key} {h h' : Hub MemoryStore} {c : Option Call}
variable {p : Program Unit} {client : Client} {s s' : MemoryStore} {read : Resource}
variable {conditions : List Condition}

/-- **An object is renewed by a charge**: conditions of the charge are set
on it, and it has another version. -/
def Renewed (charge : Charge) (kind : Kind) (key : Key) (before after : Resource) : Prop :=
  ∃ desired conditions n, charge.Sets kind key desired ∧
    Mutation.applyAll (desired.map Mutation.set) before.conditions = .ok conditions ∧
    after = Resource.atVersion n { before with conditions := conditions }

/-- An object is as before, or was renewed by a charge. -/
def RenewedAtMost (charge : Charge) (kind : Kind) (key : Key) (s s' : MemoryStore) : Prop :=
  s'.object? kind key = s.object? kind key ∨ ∃ before after,
    s.object? kind key = some before ∧ s'.object? kind key = some after ∧
    Renewed charge kind key before after

/-- A write of conditions on a state that was read changes nothing, or that
state is stored and the conditions are written on it. -/
theorem MemoryStore.Sound.updateStatus_known (hs : s.Sound) (known : s.IsKnown kind key read)
    (conditions : List Condition) :
    Consulted s (s.updateStatus kind { read with conditions := conditions }).2 ∨
      s.object? kind key = some read ∧
        Consulted (s.hold kind { read with conditions := conditions })
          (s.updateStatus kind { read with conditions := conditions }).2 := by
  obtain ⟨-, -, -, hsame⟩ | ⟨stored, hstored, hversion, -, hheld⟩ :=
    hs.updateStatus_cases kind { read with conditions := conditions }
  · exact .inl hsame
  · have hread : s.object? kind key = some stored := known.keyed ▸ hstored
    -- one version is one state
    obtain rfl : stored = read := known.same stored hread hversion.symm
    exact .inr ⟨hread, hheld⟩

theorem RenewedAtMost.of_consulted {charge : Charge} (same : Consulted s s') :
    RenewedAtMost charge kind key s s' := .inl (same.object? kind key)

/-- A status write of a client renews the object that it is about, and no
other. -/
theorem renewedAtMost_write {charge : Charge} {desired : List Condition} (hs : s.Sound)
    (known : s.IsKnown kind' key' read) (sets : charge.Sets kind' key' desired)
    (happly : Mutation.applyAll (desired.map Mutation.set) read.conditions = .ok conditions) :
    RenewedAtMost charge kind key s
      (s.updateStatus kind' { read with conditions := conditions }).2 := by
  obtain hsame | ⟨hread, hheld⟩ := hs.updateStatus_known known conditions
  · exact .of_consulted hsame
  have hkey : Resource.key { read with conditions := conditions } = key' := known.keyed
  have hobject := (hheld.object? kind key).trans (object?_hold _ _ _ _ _)
  rw [hkey] at hobject
  by_cases hplace : (kind', key') = (kind, key)
  · obtain ⟨rfl, rfl⟩ := Prod.mk.inj hplace
    rw [if_pos rfl] at hobject
    exact .inr ⟨read, _, hread, hobject, desired, conditions, _, sets, happly, rfl⟩
  · rw [if_neg hplace] at hobject
    exact .inl hobject

/-- **A step of a client** leaves an object as it is or renews it, and the
client goes by what it has read, also after the step. -/
theorem Client.Informed.step (kind : Kind) (key : Key) (hs : h.store.Sound)
    (informed : client.Informed h.store) (step : Step client.program h c p h') :
    Later h.store h'.store ∧ Client.Informed { client with program := p } h'.store ∧
      RenewedAtMost client.charge kind key h.store h'.store := by
  obtain ⟨trace, safe, known⟩ := informed
  obtain ⟨charge, program⟩ := client
  dsimp only at safe step ⊢
  cases step with
  | @call c next h h' a answers =>
    have turn : AmidStep Edit (.call c next) h (.asked ⟨c, a⟩ h.store h'.store) (next a) h' :=
      .asked answers
    have later := turn.later hs
    refine ⟨later, ⟨trace ++ [⟨c, a⟩], safe.2 a, fun kind key read hmem => ?_⟩, ?_⟩
    · rcases List.mem_append.1 hmem with hmem | hmem
      · exact (known kind key read hmem).later later
      · -- it has just read what is stored
        rw [← List.mem_singleton.1 hmem] at turn
        exact .of_found later.sound (turn.found hs).2.2.2
    · obtain hsame | ⟨kind', object, stored, rfl, -, -⟩ := answers.store_cases hs
      · exact .of_consulted hsame
      · obtain ⟨key', read, conditions, desired, hfound, sets, happly, rfl⟩ :=
          safe.1 kind' object rfl
        obtain ⟨-, rfl⟩ := answers.eq (fun _ => nofun) nofun
        exact renewedAtMost_write hs (known _ _ _ hfound) sets happly
  | sleep passes cut =>
    rw [passes.aside.1]
    exact ⟨.refl hs, ⟨trace, safe _, known⟩, .inl rfl⟩
  | take pop => exact ⟨.refl hs, ⟨trace, safe _, known⟩, .inl rfl⟩
  | takeNone pop => exact ⟨.refl hs, ⟨trace, safe _, known⟩, .inl rfl⟩

end Turns

/-! ## A crowd -/

section Crowd

variable {kind : Kind} {key : Key} {start w w' : Crowd} {t : CrowdTurn}

/-- **What the turns of a crowd keep**: every client goes by what it has
read. -/
structure Crowd.Kept (w : Crowd) : Prop where
  sound : w.hub.store.Sound
  informed : ∀ client ∈ w.clients, client.Informed w.hub.store

theorem Client.Informed.later {client : Client} {s s' : MemoryStore} (informed : client.Informed s)
    (later : Later s s') : client.Informed s' := by
  obtain ⟨trace, safe, known⟩ := informed
  exact ⟨trace, safe, fun kind key read hmem => (known kind key read hmem).later later⟩

/-- A turn of a crowd leaves the object as it is, or a client renews it. -/
def Crowd.Renews (w : Crowd) (t : CrowdTurn) (w' : Crowd) (kind : Kind) (key : Key) : Prop :=
  w'.hub.store.object? kind key = w.hub.store.object? kind key ∨
    ∃ id client before after, t = .stepped id ∧ w.clients[id]? = some client ∧
      w.hub.store.object? kind key = some before ∧ w'.hub.store.object? kind key = some after ∧
      Renewed client.charge kind key before after

/-- **A turn** keeps it, and leaves the object as it is or renews it. -/
theorem Crowd.Kept.step (kept : w.Kept) (step : CrowdStep kind key w t w') :
    w'.Kept ∧ w.Renews t w' kind key := by
  -- the clients that do not take the turn go by what they have read as before
  have hothers {hub : Hub MemoryStore} (later : Later w.hub.store hub.store) :
      Crowd.Kept { w with hub := hub } :=
    ⟨later.sound, fun client hc => (kept.informed client hc).later later⟩
  cases step with
  | called charge =>
    refine ⟨⟨kept.sound, fun client hc => ?_⟩, .inl rfl⟩
    rcases List.mem_append.1 hc with hc | hc
    · exact kept.informed client hc
    · rw [List.mem_singleton.1 hc]
      exact ⟨[], charge.safe_program, fun _ _ _ hmem => nomatch hmem⟩
  | @stepped id client c p hub found step =>
    have informed := kept.informed client (List.mem_of_getElem? found)
    obtain ⟨later, informed', hrenewed⟩ := informed.step kind key kept.sound step
    refine ⟨⟨later.sound, fun other hc => ?_⟩, ?_⟩
    · rcases List.mem_or_eq_of_mem_set hc with hc | rfl
      · exact (kept.informed other hc).later later
      · exact informed'
    · obtain hsame | ⟨before, after, hbefore, hafter, hrenewed⟩ := hrenewed
      · exact .inl hsame
      · exact .inr ⟨id, client, before, after, rfl, found, hbefore, hafter, hrenewed⟩
  | asked op leaves => exact ⟨hothers (.of_run kept.sound op), .inl leaves⟩
  | passed passes =>
    have hstore := passes.aside.1
    refine ⟨hothers ?_, .inl ?_⟩
    · rw [hstore]
      exact .refl kept.sound
    · rw [hstore]

theorem CrowdRun.kept (run : CrowdRun kind key start w) (kept : start.Kept) : w.Kept := by
  induction run with
  | start => exact kept
  | step _ step ih => exact (ih.step step).1

/-! ## The history -/

/-- **Setting conditions one after another** renews those that are there, in
their places. -/
theorem extended_applyAll {desired cs cs' : List Condition} (nodup : (types cs).Nodup)
    (h : Mutation.applyAll (desired.map Mutation.set) cs = .ok cs') :
    (types cs').Nodup ∧ Extended (RenewedBy desired) cs cs' := by
  induction desired generalizing cs with
  | nil =>
    cases h
    exact ⟨nodup, .refl fun c _ => .of_ne fun d hd => nomatch hd⟩
  | cons d desired ih =>
    obtain ⟨mid, hset, hlater⟩ := StatusUpdate.set_of_applyAll_cons h
    obtain ⟨nodup', hrest⟩ := ih (nodup_set nodup hset) hlater
    exact ⟨nodup', (extended_set nodup hset).trans (fun h h' => h.cons h') hrest⟩

/-- One turn of the history. -/
theorem Crowd.Kept.extends {r : Resource} (kept : w.Kept)
    (held : w.hub.store.object? kind key = some r) (nodup : (types r.conditions).Nodup)
    (step : CrowdStep kind key w t w') :
    ∃ r', w'.hub.store.object? kind key = some r' ∧ (types r'.conditions).Nodup ∧
      (r' = r ∨ ∃ id client desired, t = .stepped id ∧ w.clients[id]? = some client ∧
        client.charge.Sets kind key desired ∧
        Extended (RenewedBy desired) r.conditions r'.conditions) := by
  obtain hsame | ⟨id, client, before, after, ht, hclient, hbefore, hafter, hrenewed⟩ :=
    (kept.step step).2
  · exact ⟨r, hsame.trans held, nodup, .inl rfl⟩
  · obtain rfl := Option.some.inj (held.symm.trans hbefore)
    obtain ⟨desired, conditions, n, sets, happly, rfl⟩ := hrenewed
    obtain ⟨nodup', hextended⟩ := extended_applyAll nodup happly
    exact ⟨_, hafter, nodup', .inr ⟨id, client, desired, ht, hclient, sets, hextended⟩⟩

/-- **The history along a run**: conditions stay in their places, and each
of them ages. -/
theorem CrowdRun.extends {r : Resource} (run : CrowdRun kind key w w') (kept : w.Kept)
    (held : w.hub.store.object? kind key = some r) (nodup : (types r.conditions).Nodup) :
    ∃ r', w'.hub.store.object? kind key = some r' ∧ (types r'.conditions).Nodup ∧
      Extended Ages r.conditions r'.conditions := by
  induction run with
  | start => exact ⟨r, held, nodup, .refl fun c _ => .refl c⟩
  | step run step ih =>
    obtain ⟨mid, hmid, hnodup, haged⟩ := ih
    obtain ⟨r', hr', hnodup', rfl | ⟨-, -, desired, -, -, -, hrenewed⟩⟩ :=
      (run.kept kept).extends hmid hnodup step
    · exact ⟨_, hr', hnodup', haged⟩
    · exact ⟨r', hr', hnodup', haged.trans (fun h h' => h.trans h') (hrenewed.mono fun h => h.ages)⟩

/-- **Transition times never go back.** Clients set conditions on an object
and reconcile sets, in any number and with their steps in any order, and
nobody else writes the object. It begins with each type of condition once.

Then it is stored at any time, with each type once; whatever happens after
that, its types stay in their order and in front, and each condition ages:
its time does not go back, and goes on if its status is another. And from
one version to the next, a client has set conditions of its charge: a
condition keeps its time if all that was set of its type had its status,
and has a later one otherwise. -/
theorem transition_times_never_go_back {first : Resource} (hs : start.hub.store.Sound)
    (idle : start.clients = []) (held : start.hub.store.object? kind key = some first)
    (distinct : (types first.conditions).Nodup) (run : CrowdRun kind key start w) :
    ∃ r, w.hub.store.object? kind key = some r ∧ (types r.conditions).Nodup ∧
      (∀ w', CrowdRun kind key w w' → ∃ r', w'.hub.store.object? kind key = some r' ∧
        types r.conditions <+: types r'.conditions ∧
        ∀ c ∈ r.conditions, ∃ c' ∈ r'.conditions, Ages c c') ∧
      ∀ t w', CrowdStep kind key w t w' → ∃ r', w'.hub.store.object? kind key = some r' ∧
        (r' = r ∨ ∃ id client desired, t = .stepped id ∧ w.clients[id]? = some client ∧
          client.charge.Sets kind key desired ∧
          ∀ c ∈ r.conditions, ∃ c' ∈ r'.conditions, RenewedBy desired c c' ∧ Ages c c') := by
  have begun : start.Kept := ⟨hs, idle ▸ fun client hc => nomatch hc⟩
  have kept := run.kept begun
  obtain ⟨r, hr, nodup, -⟩ := run.extends begun held distinct
  refine ⟨r, hr, nodup, fun w' later => ?_, fun t w' step => ?_⟩
  · obtain ⟨r', hr', -, haged⟩ := later.extends kept hr nodup
    exact ⟨r', hr', haged.types Ages.type, fun c hc => haged.mem hc⟩
  · obtain ⟨r', hr', -, hsame | ⟨id, client, desired, ht, hclient, sets, hrenewed⟩⟩ :=
      kept.extends hr nodup step
    · exact ⟨r', hr', .inl hsame⟩
    · refine ⟨r', hr', .inr ⟨id, client, desired, ht, hclient, sets, fun c hc => ?_⟩⟩
      obtain ⟨c', hc', renewed⟩ := hrenewed.mem hc
      exact ⟨c', hc', renewed, renewed.ages⟩

/-! ## A stale time -/

/-- The crowd after a client took some steps: calls get their usual answer,
and no sleep is cut short. -/
def Crowd.work (id n : Nat) (w : Crowd) : Crowd :=
  match w.clients[id]? with
  | none => w
  | some client =>
    let worked := client.program.advance n w.hub
    ⟨worked.2, w.clients.set id { client with program := worked.1 }⟩

theorem CrowdRun.advance {id : Nat} {client : Client} (run : CrowdRun kind key start w)
    (found : w.clients[id]? = some client) (n : Nat) :
    CrowdRun kind key start ⟨(client.program.advance n w.hub).2,
      w.clients.set id { client with program := (client.program.advance n w.hub).1 }⟩ := by
  obtain ⟨hid, hclient⟩ := List.getElem?_eq_some_iff.1 found
  -- the client is replaced step by step, in its place
  have hstep {p p' : Program Unit} {hub hub' : Hub MemoryStore} {c : Option Call}
      (run : CrowdRun kind key start ⟨hub, w.clients.set id { client with program := p }⟩)
      (step : Step p hub c p' hub') :
      CrowdRun kind key start ⟨hub', w.clients.set id { client with program := p' }⟩ := by
    have moved := run.step (.stepped (List.getElem?_set_self hid) step)
    rwa [List.set_set] at moved
  refine Program.advance_keeps (motive := fun p hub =>
    CrowdRun kind key start ⟨hub, w.clients.set id { client with program := p }⟩)
    (fun run => hstep run (.call (.usual _ _))) (fun run => hstep run (.rested ..)) ?_ n
  rwa [← hclient, List.set_getElem_self]

theorem CrowdRun.work (run : CrowdRun kind key start w) (id n : Nat) :
    CrowdRun kind key start (w.work id n) := by
  unfold Crowd.work
  cases found : w.clients[id]? with
  | none => exact run
  | some client => exact run.advance found n

namespace Stale

/-- The set whose status is written. -/
def setKey : Key := Key.cluster "s"

/-- A condition of the set, at a time that does not change. -/
def ready (status : ConditionStatus) : Condition := ⟨"Ready", status, "", "", Instant.epoch⟩

/-- A hub with the set, which is ready. -/
def given : Crowd :=
  ⟨Hub.start (MemoryStore.empty.put .set ⟨⟨"s", none, none, none, [], none⟩, [ready .holds]⟩).2 1
    Instant.epoch, []⟩

/-- One client takes the readiness back, with the old time, and another
reconciles the set. -/
def charges : List Charge :=
  [.update .set setKey [ready .fails] .standard none, .reconcile true .standard none setKey]

/-- Both are under way. -/
def begun : Crowd :=
  { given with clients := charges.map fun charge => ⟨charge, charge.program⟩ }

/-- The reconciliation reads before the other client has written, and writes
after it. -/
def late : Crowd := ((begun.work 1 6).work 0 8).work 1 16

/-- The reconciliation has lost a write, and the set shows both. -/
def isLate : Bool :=
  late.hub.counts.count .updateConflicts = 1 &&
    (late.hub.store.object? .set setKey).any fun r =>
      r.conditions.map (fun c => (c.type, c.status)) =
        [("Ready", .fails), (ClusterSet.emptyType, .holds)]

theorem run_late : CrowdRun .set setKey given late := by
  have run : CrowdRun .set setKey given begun := .step (.step .start (.called _ _)) (.called _ _)
  exact ((run.work 1 6).work 0 8).work 1 16

end Stale

end Crowd

/-- A client takes the readiness of a set back with a time that is not
later, and a reconciliation that is under way loses a write to it. In the
end the readiness has a later time, and the condition that the
reconciliation sets comes after it. -/
theorem transition_times_never_go_back_stale : ∃ first r',
    Stale.given.hub.store.Sound ∧ Stale.given.clients = [] ∧
    Stale.given.hub.store.object? .set Stale.setKey = some first ∧
    first.conditions = [Stale.ready .holds] ∧ (types first.conditions).Nodup ∧
    CrowdRun .set Stale.setKey Stale.given Stale.late ∧
    Stale.late.hub.counts.count .updateConflicts = 1 ∧
    Stale.late.hub.store.object? .set Stale.setKey = some r' ∧
    types r'.conditions = ["Ready", ClusterSet.emptyType] ∧
    ∃ c' ∈ r'.conditions, Ages (Stale.ready .holds) c' ∧ Instant.epoch < c'.since := by
  have hs : Stale.given.hub.store.Sound :=
    MemoryStore.sound_empty.put .set ⟨⟨"s", none, none, none, [], none⟩, [Stale.ready .holds]⟩
  have held : Stale.given.hub.store.object? .set Stale.setKey =
      some (MemoryStore.empty.put .set
        ⟨⟨"s", none, none, none, [], none⟩, [Stale.ready .holds]⟩).1 :=
    (object?_put _ _ _ _ _).trans (if_pos rfl)
  have distinct : (types [Stale.ready .holds]).Nodup := List.nodup_singleton _
  have hlate : Stale.isLate = true := by decide +kernel
  rw [Stale.isLate, Bool.and_eq_true, decide_eq_true_eq] at hlate
  obtain ⟨r, hr, -, hhistory, -⟩ :=
    transition_times_never_go_back hs rfl held distinct .start
  obtain rfl := Option.some.inj (held.symm.trans hr)
  obtain ⟨r', hr', -, hages⟩ := hhistory Stale.late Stale.run_late
  obtain ⟨c', hc', ages⟩ := hages (Stale.ready .holds) (List.mem_singleton.2 rfl)
  have hshown : r'.conditions.map (fun c => (c.type, c.status)) =
      [("Ready", .fails), (ClusterSet.emptyType, .holds)] := by
    have hany := hlate.2
    rw [hr'] at hany
    exact of_decide_eq_true hany
  have htypes : types r'.conditions = ["Ready", ClusterSet.emptyType] := by
    have := congrArg (List.map Prod.fst) hshown
    rwa [List.map_map] at this
  have hstatus : c'.status = .fails := by
    have hmem := List.mem_map_of_mem (f := fun c : Condition => (c.type, c.status)) hc'
    rw [hshown, ages.type] at hmem
    rcases List.mem_cons.1 hmem with heq | hmem
    · exact (Prod.mk.inj heq).2
    · exact absurd (Prod.mk.inj (List.mem_singleton.1 hmem)).1 (by decide)
  exact ⟨_, r', hs, rfl, held, rfl, distinct, Stale.run_late, hlate.1, hr', htypes, c', hc', ages,
    ages.flipped (hstatus ▸ nofun)⟩

end ClusterFleet
