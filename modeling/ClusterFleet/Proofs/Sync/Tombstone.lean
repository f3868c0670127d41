import ClusterFleet.Hub.ClusterSet
import ClusterFleet.Proofs.Store.Later
import ClusterFleet.Proofs.Sync.Reconcile
import ClusterFleet.Proofs.Update.Reread

/-!
# Sync — a set that is marked for deletion

A reconciliation looks the set up and leaves it alone if it is marked. But
the update that ends it reads the set again, at every attempt, and does
not look for the marker then. So what others do between the lookup and
that read decides: a marker that was set meanwhile is read and written
over, and a marker that is set after the read fails the write, since it
gives the set another version. `marker_at_write_was_read` says this of
every run amid others, and `marked_set_is_written` is such a run.
-/

namespace ClusterFleet

open MemoryStore StatusUpdate Program

/-- The set of a key is stored and is marked for deletion. -/
def MemoryStore.Marked (s : MemoryStore) (key : Key) : Prop :=
  ∃ set, s.object? .set key = some set ∧ set.isDeleting = true

/-- Somebody else marks the set of a key for deletion. -/
def AmidTurn.Marks (key : Key) (t : AmidTurn MemoryStore) : Prop :=
  ∃ before after, t = .edited before after ∧ ¬before.Marked key ∧ after.Marked key

/-! ## What a reconciliation asks -/

section Asks

variable {key : Key} {set : Resource} {trace : List Exchange}

/-- A status write comes after a lookup that found the set without a
marker, and writes nothing but conditions on what was read last. -/
def WritesLive (key : Key) (trace : List Exchange) (c : Call) : Prop :=
  ∀ kind object, c = .updateStatus kind object →
    kind = .set ∧ ∃ start between live read,
      trace = start ++ .found .set key live :: between ++ [.found .set key read] ∧
      live.isDeleting = false ∧ object = { read with conditions := object.conditions }

/-- The set was looked up. -/
def LookedUp (key : Key) (set : Resource) (trace : List Exchange) : Prop :=
  ∃ start between, trace = start ++ .found .set key set :: between

theorem LookedUp.snoc (looked : LookedUp key set trace) (x : Exchange) :
    LookedUp key set (trace ++ [x]) := by
  obtain ⟨start, between, rfl⟩ := looked
  exact ⟨start, between ++ [x], List.append_assoc _ _ _⟩

theorem WritesLive.of_ne {c : Call} (hc : ∀ kind object, c ≠ .updateStatus kind object) :
    WritesLive key trace c :=
  fun kind object heq => absurd heq (hc kind object)

/-- What the update of a set writes is written live, if the lookup was. -/
theorem WritesLive.of_read {job : UpdateJob} {first : List Exchange} {c : Call}
    (looked : LookedUp key set first) (live : set.isDeleting = false) (hkind : job.kind = .set)
    (hkey : job.key = key) (writes : WritesRead job first trace c) : WritesLive key trace c := by
  intro kind object heq
  obtain ⟨start, between, rfl⟩ := looked
  obtain ⟨rfl, between', read, conditions, rfl, -, rfl⟩ := writes kind object heq
  rw [hkind, hkey]
  refine ⟨rfl, start, between ++ between', set, read, ?_, live, rfl⟩
  simp only [List.append_assoc, List.cons_append]

variable {prune : Bool} {policy : RetryPolicy} {deadline : Option Moment}
variable {ok : List Exchange → Call → Prop}

/-- What is said of calls holds of all that a reconciliation makes: of
those that write nothing, and of those that the update at its end makes,
after a lookup that found the set without a marker. -/
structure HoldsOfCalls (policy : RetryPolicy) (deadline : Option Moment) (key : Key)
    (ok : List Exchange → Call → Prop) : Prop where
  aside : ∀ {trace : List Exchange} {c : Call},
    (∀ kind object, c ≠ .updateStatus kind object) → ok trace c
  update : ∀ {set : Resource} {n : Nat} {now : Instant} {first trace : List Exchange} {c : Call},
    LookedUp key set first → set.isDeleting = false →
      WritesRead (publishing key n now policy deadline) first trace c → ok trace c

theorem safe_refresh (holds : HoldsOfCalls policy deadline key ok) (looked : LookedUp key set trace)
    (live : set.isDeleting = false) (members : List Resource) :
    (ClusterSet.refresh prune policy deadline key set members).Safe ok (fun _ _ => True) trace := by
  refine ⟨holds.aside fun _ _ => nofun, fun churn => Safe.bind ?_⟩
  have hrecord (event : Event) (trace : List Exchange) (looked : LookedUp key set trace) :
      (Program.ask (.record event)).Safe ok (fun _ => LookedUp key set) trace :=
    ⟨holds.aside fun _ _ => nofun, fun a => looked.snoc _⟩
  refine (safe_each hrecord _ (looked.snoc _)).mono (fun _ _ => id) fun _ trace looked => ?_
  refine ⟨holds.aside fun _ _ => nofun, fun now => Safe.bind ?_⟩
  -- the update goes on from what the reconciliation has asked so far
  have hupdate := rereads_ofJob
    (publishing key (ClusterSet.selection set members).length now policy deadline)
    (trace ++ [⟨.calendar, now⟩])
  rw [Rereads, List.append_nil] at hupdate
  refine hupdate.mono (fun _ _ => holds.update (looked.snoc _) live) fun result _ _ => ?_
  cases result <;> trivial

theorem safe_bringUpToDate (holds : HoldsOfCalls policy deadline key ok) (trace : List Exchange) :
    (ClusterSet.bringUpToDate prune policy deadline key).Safe ok (fun _ _ => True) trace := by
  unfold ClusterSet.bringUpToDate
  split
  · trivial
  refine ⟨holds.aside fun _ _ => nofun, fun found => ?_⟩
  rcases found with e | _ | set
  · trivial
  · trivial
  dsimp only
  split
  · trivial
  · rename_i hlive
    rw [Bool.not_eq_true] at hlive
    have looked : LookedUp key set (trace ++ [.found .set key set]) := ⟨trace, [], rfl⟩
    refine ⟨holds.aside fun _ _ => nofun, fun listed => ?_⟩
    rcases listed with e | members
    · trivial
    · exact safe_refresh holds (looked.snoc _) hlive members

/-- **What a reconciliation asks** is what holds of calls that write nothing
and of those of its update. -/
theorem safe_reconcile (prune : Bool) (holds : HoldsOfCalls policy deadline key ok) :
    (ClusterSet.reconcile prune policy deadline key).Safe ok (fun _ _ => True) [] := by
  refine ⟨holds.aside fun _ _ => nofun, fun _ => Safe.bind ?_⟩
  refine (safe_bringUpToDate holds _).mono (fun _ _ => id) fun result trace _ => ?_
  refine ⟨holds.aside fun _ _ => nofun, fun _ => ?_⟩
  cases result with
  | ok outcome => trivial
  | error e => exact ⟨holds.aside fun _ _ => nofun, fun _ => trivial⟩

/-- **What a reconciliation writes** was read after the set was found
without a marker. -/
theorem isLive_reconcile (prune : Bool) (policy : RetryPolicy) (deadline : Option Moment)
    (key : Key) : (ClusterSet.reconcile prune policy deadline key).Safe (WritesLive key)
      (fun _ _ => True) [] :=
  safe_reconcile prune
    ⟨.of_ne, fun looked live writes => .of_read looked live rfl rfl writes⟩

end Asks

/-! ## What the turns make of the store -/

section Turns

variable {α : Type} {p p' : Program α} {h h' : Hub MemoryStore} {t : AmidTurn MemoryStore}
variable {turns : List (AmidTurn MemoryStore)} {key : Key}

/-- A call consults the store, or is a status write of what is stored. -/
theorem Hub.Answers.store_cases {c : Call} {a : c.Answer} (hs : h.store.Sound)
    (answers : h.Answers c a h') :
    Consulted h.store h'.store ∨
      ∃ kind object stored, c = .updateStatus kind object ∧
        h.store.object? kind object.key = some stored ∧
        Consulted (h.store.hold kind (merged stored object)) h'.store := by
  have reaches := answers.reaches
  generalize h.store = s, h'.store = s' at hs reaches ⊢
  cases reaches with
  | get kind key => exact .inl (hs.get_cases kind key).1
  | list kind => exact .inl (hs.list_cases kind).1
  | updateStatus kind object =>
    obtain ⟨-, -, -, hsame⟩ | ⟨stored, hstored, -, -, hheld⟩ := hs.updateStatus_cases kind object
    · exact .inl hsame
    · exact .inr ⟨kind, object, stored, rfl, hstored, hheld⟩
  | aside => exact .inl (.refl _)

/-- A step that is no call leaves the store alone. -/
theorem Step.store_eq (step : Step p h none p' h') : h'.store = h.store := by
  cases step with
  | sleep passes cut => exact passes.aside.1
  | take pop => rfl
  | takeNone pop => rfl

theorem AmidStep.later (hs : h.store.Sound) (step : AmidStep Edit p h t p' h') :
    Later h.store h'.store := by
  cases step with
  | asked answers =>
    obtain hsame | ⟨kind, object, stored, -, hstored, hheld⟩ := answers.store_cases hs
    · exact .of_consulted hs hsame
    · have huid := hs.merged_uid hstored object
      exact (Later.of_hold hs kind huid).trans (.of_consulted (hs.hold kind huid) hheld)
  | moved step =>
    rw [step.store_eq]
    exact .refl hs
  | edited edit => exact .of_edit hs edit
  | passed passes =>
    rw [passes.aside.1]
    exact .refl hs

theorem AmidRun.later (hs : h.store.Sound) (run : AmidRun Edit p h turns p' h') :
    Later h.store h'.store := by
  induction run with
  | start => exact .refl hs
  | step _ step ih => exact ih.trans (step.later ih.sound)

/-- What a call makes of the store keeps the markers. -/
theorem Hub.Answers.marked {c : Call} {a : c.Answer} (hs : h.store.Sound)
    (answers : h.Answers c a h') (hmarked : h'.store.Marked key) : h.store.Marked key := by
  obtain ⟨set, hset, hdeleting⟩ := hmarked
  obtain hsame | ⟨kind, object, stored, -, hstored, hheld⟩ := answers.store_cases hs
  · exact ⟨set, (hsame.object? _ _).symm.trans hset, hdeleting⟩
  rw [hheld.object?, object?_hold] at hset
  split at hset
  · -- a status write keeps the metadata of what is stored, and the marker is there
    rename_i hplace
    obtain ⟨rfl, hkey⟩ := Prod.mk.inj hplace
    obtain rfl := Option.some.inj hset
    have hstoredkey : stored.key = object.key := (hs.found hstored).1
    refine ⟨stored, ?_, hdeleting⟩
    rw [← hkey, ← hstored, ← hstoredkey]
    rfl
  · exact ⟨set, hset, hdeleting⟩

/-- Only somebody else marks a set. -/
theorem AmidStep.marks (hs : h.store.Sound) (step : AmidStep Edit p h t p' h')
    (live : ¬h.store.Marked key) (hmarked : h'.store.Marked key) : t.Marks key := by
  cases step with
  | asked answers => exact absurd (answers.marked hs hmarked) live
  | moved step =>
    rw [step.store_eq] at hmarked
    exact absurd hmarked live
  | edited edit => exact ⟨_, _, rfl, live, hmarked⟩
  | passed passes =>
    rw [passes.aside.1] at hmarked
    exact absurd hmarked live

/-- A marker that appears during a run was set by somebody else, in one of
its turns. -/
theorem AmidRun.marks (hs : h.store.Sound) (run : AmidRun Edit p h turns p' h')
    (live : ¬h.store.Marked key) (hmarked : h'.store.Marked key) : ∃ t ∈ turns, t.Marks key := by
  induction run with
  | start => exact absurd hmarked live
  | @step turns p₁ p₂ h₁ h₂ t run step ih =>
    by_cases hbefore : h₁.store.Marked key
    · obtain ⟨t', hmem, hmarks⟩ := ih hbefore
      exact ⟨t', List.mem_append_left _ hmem, hmarks⟩
    · exact ⟨t, List.mem_append_right _ (List.mem_singleton.2 rfl),
        step.marks (run.later hs).sound hbefore hmarked⟩

/-- A read that found an object found what is stored. -/
theorem AmidStep.found (hs : h.store.Sound) {kind : Kind} {object : Resource}
    {s s' : MemoryStore}
    (step : AmidStep Edit p h (.asked (.found kind key object) s s') p' h') :
    s = h.store ∧ s' = h'.store ∧ h.store.object? kind key = some object ∧
      h'.store.object? kind key = some object := by
  unfold Exchange.found at step
  cases step with
  | asked answers =>
    obtain ⟨hfound, rfl⟩ := answers.eq (fun _ => nofun) nofun
    obtain ⟨hsame, ⟨fault, -, hget⟩ | hget⟩ := hs.get_cases kind key
    · cases hfound.trans hget
    · have hobject := Except.ok.inj (hfound.trans hget)
      exact ⟨rfl, rfl, hobject.symm, (hsame.object? kind key).trans hobject.symm⟩

/-- A status write that succeeds finds the state that was read, if that is
a state of the object at all: the versions agree. -/
theorem AmidStep.wrote (hs : h.store.Sound) {kind : Kind} {object written read : Resource}
    {s s' : MemoryStore} (hknown : h.store.IsKnown kind key read)
    (hobject : object = { read with conditions := object.conditions })
    (step : AmidStep Edit p h (.asked (.wrote kind object written) s s') p' h') :
    s = h.store ∧ s' = h'.store ∧ h.store.object? kind key = some read ∧
      h'.store.object? kind key = some written ∧ written.isDeleting = read.isDeleting := by
  unfold Exchange.wrote at step
  cases step with
  | asked answers =>
    obtain ⟨hwritten, rfl⟩ := answers.eq (fun _ => nofun) nofun
    obtain ⟨e, he, -⟩ | ⟨stored, hstored, hversion, hok, hheld⟩ := hs.updateStatus_cases kind object
    · cases hwritten.trans he
    have hkey : object.key = key := by rw [hobject]; exact hknown.keyed
    rw [hkey] at hstored
    -- one version is one state, so the state that is stored is the one that was read
    have hread : stored = read := hknown.same stored hstored (by rw [← hversion, hobject])
    subst hread
    have hmerged : merged stored object = object := hobject.symm
    obtain rfl := Except.ok.inj (hwritten.trans hok)
    rw [hmerged] at hheld ⊢
    refine ⟨rfl, rfl, hstored, ?_, by rw [hobject]; rfl⟩
    exact (hheld.object? kind key).trans (hkey ▸ object?_hold_self kind object h.store)

end Turns

/-! ## Amid others -/

/-- **A marker that is written over was read.** Whatever others do between
the steps of a reconciliation, the state on which it writes is the state
that its last read found, so a marker there was read. The set had no
marker when it was looked up, and somebody set it between the two
reads. -/
theorem marker_at_write_was_read {prune : Bool} {policy : RetryPolicy}
    {deadline : Option Moment} {key : Key} {h k k' : Hub MemoryStore}
    {p p' : Program (Except StoreError SyncOutcome)} {turns : List (AmidTurn MemoryStore)}
    {kind : Kind} {object written : Resource} {s s' : MemoryStore} (hs : h.store.Sound)
    (run : AmidRun Edit (ClusterSet.reconcile prune policy deadline key) h turns p k)
    (write : AmidStep Edit p k (.asked (.wrote kind object written) s s') p' k') :
    kind = .set ∧ ∃ start between rest s₀ s₀' s₁ s₁' live read,
      turns = start ++ .asked (.found .set key live) s₀ s₀' ::
        (between ++ .asked (.found .set key read) s₁ s₁' :: rest) ∧
      exchanges rest = [] ∧ live.isDeleting = false ∧
      s.object? .set key = some read ∧ s'.object? .set key = some written ∧
      written.isDeleting = read.isDeleting ∧
      (s.Marked key ↔ read.isDeleting = true) ∧
      (s.Marked key → ∃ t ∈ between, t.Marks key) := by
  have safe := run.safe (isLive_reconcile prune policy deadline key)
  obtain ⟨rfl, start, between, live, read, htrace, hlive, hobject⟩ :=
    write.allowed safe kind object rfl
  rw [List.append_assoc] at htrace
  obtain ⟨start, mid, s₀, s₀', rfl, -, hmid⟩ := exchanges_split htrace
  obtain ⟨between, rest, s₁, s₁', rfl, -, hrest⟩ := exchanges_split hmid
  -- the run in five parts: to the lookup, the lookup, to the last read, the last read, and on
  obtain ⟨p₁, h₁, p₂, h₂, run₁, lookup, run₂⟩ := run.split
  obtain ⟨p₃, h₃, p₄, h₄, run₃, reread, run₄⟩ := run₂.split
  have hs₁ := (run₁.later hs).sound
  have hs₂ := (lookup.later hs₁).sound
  have hs₃ := (run₃.later hs₂).sound
  obtain ⟨-, -, -, hlookup⟩ := lookup.found hs₁
  obtain ⟨-, -, hread, -⟩ := reread.found hs₃
  have hlast := (reread.later hs₃).trans (run₄.later (reread.later hs₃).sound)
  have hknown := (IsKnown.of_found hs₃ hread).later hlast
  obtain ⟨rfl, rfl, hstored, hwritten, hmarker⟩ := write.wrote hlast.sound hknown hobject
  have hmarked : k.store.Marked key ↔ read.isDeleting = true := by
    constructor
    · rintro ⟨set, hset, hdeleting⟩
      obtain rfl := Option.some.inj (hset.symm.trans hstored)
      exact hdeleting
    · exact fun hdeleting => ⟨read, hstored, hdeleting⟩
  refine ⟨rfl, start, between, rest, s₀, s₀', s₁, s₁', live, read, rfl, hrest, hlive, hstored,
    hwritten, hmarker, hmarked, fun hk => ?_⟩
  refine run₃.marks hs₂ ?_ ⟨read, hread, hmarked.1 hk⟩
  rintro ⟨set, hset, hdeleting⟩
  obtain rfl := Option.some.inj (hset.symm.trans hlookup)
  rw [hlive] at hdeleting
  cases hdeleting

/-! ## A marker that comes too late -/

namespace Tombstone

/-- The key of the set. -/
def key : Key := Key.cluster "a"

/-- A store with one set, whose next status writes fail with conflicts. -/
def store (conflicts : Nat) : MemoryStore :=
  (MemoryStore.empty.put .set ⟨⟨"a", none, none, none, [], none⟩, []⟩).2.plantConflicts conflicts

/-- The set, marked for deletion. -/
def mark (set : Resource) : Resource :=
  { set with metadata := { set.metadata with deletedAt := some Instant.epoch } }

/-- The reconciliation of the set. -/
def sync : Program (Except StoreError SyncOutcome) :=
  ClusterSet.reconcile true .standard none key

/-- A hub on which nothing has happened yet. -/
def hub (conflicts : Nat) : Hub MemoryStore := Hub.start (store conflicts) 1 Instant.epoch

/-- The reconciliation after some steps, the marker, and some steps
more. -/
def marked (conflicts early late : Nat) :
    Program (Except StoreError SyncOutcome) × Hub MemoryStore :=
  let before := sync.advance early (hub conflicts)
  before.1.advance late { before.2 with store := (before.2.store.modify .set key mark).2 }

theorem sound_hub (conflicts : Nat) : (hub conflicts).store.Sound := by
  have hput := sound_empty.put .set ⟨⟨"a", none, none, none, [], none⟩, []⟩
  exact (Later.of_edit hput (.plantConflicts conflicts _)).sound

theorem run_marked (conflicts early late : Nat) : ∃ turns, AmidRun Edit sync (hub conflicts) turns
    (marked conflicts early late).1 (marked conflicts early late).2 := by
  have begun : AmidRun Edit sync (hub conflicts) [] sync (hub conflicts) := .start
  obtain ⟨first, run⟩ := begun.advance early
  obtain ⟨last, run'⟩ := (run.step (.edited (.modify .set key mark _))).advance late
  exact ⟨_, run'⟩

/-- The next step writes the status of a set that is marked. -/
def writesMarked : Program (Except StoreError SyncOutcome) × Hub MemoryStore → Bool
  | (.call (.updateStatus .set object) _, h) =>
    (h.store.updateStatus .set object).1.isOk && (h.store.object? .set key).any Resource.isDeleting
  | _ => false

theorem write_of_writesMarked {w : Program (Except StoreError SyncOutcome) × Hub MemoryStore}
    (h : writesMarked w = true) : ∃ object written s s' p' k',
      AmidStep Edit w.1 w.2 (.asked (.wrote .set object written) s s') p' k' ∧ s.Marked key := by
  unfold writesMarked at h
  split at h
  · rename_i object next k
    obtain ⟨hok, hmarked⟩ := Bool.and_eq_true_iff.1 h
    obtain ⟨set, hset, hdeleting⟩ := (Option.any_eq_true _ _).1 hmarked
    cases hwritten : (k.store.updateStatus .set object).1 with
    | error e =>
      rw [hwritten] at hok
      cases hok
    | ok written =>
      have answers := Hub.Answers.usual (.updateStatus .set object) k
      have hanswer : (k.answer (.updateStatus .set object)).1 =
          (.ok written : Except StoreError Resource) := hwritten
      rw [hanswer] at answers
      exact ⟨object, written, _, _, _, _, .asked answers, set, hset, hdeleting⟩
  · cases h

end Tombstone

/-- The marker comes between the lookup and the read of the update, which
reads it and writes. -/
theorem marker_at_write_was_read_early : ∃ turns p k p' k' object written s s',
    AmidRun Edit Tombstone.sync (Tombstone.hub 0) turns p k ∧
      AmidStep Edit p k (.asked (.wrote .set object written) s s') p' k' ∧
      ∃ t ∈ turns, t.Marks Tombstone.key := by
  obtain ⟨turns, run⟩ := Tombstone.run_marked 0 5 1
  have hwrites : Tombstone.writesMarked (Tombstone.marked 0 5 1) = true := by decide +kernel
  obtain ⟨object, written, s, s', p', k', write, hmarked⟩ :=
    Tombstone.write_of_writesMarked hwrites
  obtain ⟨-, start, between, rest, s₀, s₀', s₁, s₁', live, read, hturns, -, -, -, -, -, -,
    hmarks⟩ := marker_at_write_was_read (Tombstone.sound_hub 0) run write
  obtain ⟨t, ht, hmarks⟩ := hmarks hmarked
  refine ⟨turns, _, _, p', k', object, written, s, s', run, write, t, ?_, hmarks⟩
  rw [hturns]
  simp [ht]

/-- **A marked set is written.** The set loses its first write to a
conflict, and the marker comes while the reconciliation waits to try
again. -/
theorem marked_set_is_written : ∃ turns p k p' k' object written s s',
    AmidRun Edit (ClusterSet.reconcile true .standard none (Key.cluster "a")) (Tombstone.hub 1)
      turns p k ∧
      AmidStep Edit p k (.asked (.wrote .set object written) s s') p' k' ∧
      s.Marked (Key.cluster "a") := by
  obtain ⟨turns, run⟩ := Tombstone.run_marked 1 10 1
  have hwrites : Tombstone.writesMarked (Tombstone.marked 1 10 1) = true := by decide +kernel
  obtain ⟨object, written, s, s', p', k', write, hmarked⟩ :=
    Tombstone.write_of_writesMarked hwrites
  exact ⟨turns, _, _, p', k', object, written, s, s', run, write, hmarked⟩

end ClusterFleet
