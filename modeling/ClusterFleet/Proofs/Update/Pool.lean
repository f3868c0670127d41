import ClusterFleet.Proofs.Update.Outcome

/-!
# Status updates — no update is lost

Any number of updates and other writers share one store, and their steps
fall in any order (`PoolRun`): a read, a write, a count, a sleep at a time.
An update that writes applies its mutations to the status stored just
before (`Applied`), whatever the others did since it read, because a state
that is not the stored one has another version. Updates of one object that
each set a condition of a type of their own therefore do not undo each
other, which is `no_update_is_lost`.
-/

namespace ClusterFleet

open StatusUpdate MemoryStore

/-- An update under way: its job, and what is left of its program. -/
structure Updater where
  /-- What it is asked to do. -/
  job : UpdateJob
  /-- What it has yet to do. -/
  program : Update

/-- The updates that are under way on one hub. -/
structure Pool where
  hub : Hub MemoryStore
  /-- The updates, in the order in which they began. -/
  updaters : List Updater

/-- A pool over an empty store, where no update has begun. -/
def Pool.start (capacity : Nat) (calendar : Instant) : Pool :=
  ⟨Hub.start .empty capacity calendar, []⟩

/-- One thing that happens in a pool. -/
inductive PoolTurn where
  /-- An update begins. -/
  | joined (job : UpdateJob)
  /-- An update takes a step, which may be a call. -/
  | stepped (id : Nat) (call : Option Call) (before after : MemoryStore)
  /-- The store is changed from outside. -/
  | edited (before after : MemoryStore)
  | passed

/-- One turn of a pool. -/
inductive PoolStep : Pool → PoolTurn → Pool → Prop
  | joined (w : Pool) (job : UpdateJob) :
      PoolStep w (.joined job) { w with updaters := w.updaters ++ [⟨job, ofJob job⟩] }
  | stepped {w : Pool} {id : Nat} {u : Updater} {c : Option Call} {p : Update}
      {hub : Hub MemoryStore} (found : w.updaters[id]? = some u)
      (step : Step u.program w.hub c p hub) :
      PoolStep w (.stepped id c w.hub.store hub.store)
        ⟨hub, w.updaters.set id { u with program := p }⟩
  | edited {w : Pool} {store : MemoryStore} (edit : Edit w.hub.store store) :
      PoolStep w (.edited w.hub.store store) { w with hub := { w.hub with store := store } }
  | passed {w : Pool} {hub : Hub MemoryStore} (passes : w.hub.Passes hub) :
      PoolStep w .passed { w with hub := hub }

/-- Turns of a pool one after another. -/
inductive PoolRun (start : Pool) : List PoolTurn → Pool → Prop
  | start : PoolRun start [] start
  | step {turns : List PoolTurn} {w w' : Pool} {t : PoolTurn} :
      PoolRun start turns w → PoolStep w t w' → PoolRun start (turns ++ [t]) w'

/-- The turn is a status write of this update, and it succeeds. -/
def PoolTurn.Writes (t : PoolTurn) (id : Nat) (written : Resource) : Prop :=
  match t with
  | .stepped i c before _ => i = id ∧ StatusUpdate.Writes before c written
  | _ => False

/-- The turn applies the mutations of a job. -/
def PoolTurn.Applies (t : PoolTurn) (job : UpdateJob) (written : Resource) : Prop :=
  match t with
  | .stepped _ _ before after => Applied job written before after
  | _ => False

/-- The update has these conditions as its result, or will have them after
it has counted its write. -/
def Updater.Returns (u : Updater) (conditions : List Condition) : Prop :=
  ∃ pos : Position, u.program = pos.program u.job ∧ pos.Returns conditions

/-- The update is about the object under a kind and key. -/
def Updater.IsOn (u : Updater) (kind : Kind) (key : Key) : Prop :=
  u.job.kind = kind ∧ u.job.key = key

variable {start w w' : Pool} {turns : List PoolTurn} {t : PoolTurn} {id : Nat} {u u' : Updater}

/-! ## One turn -/

/-- Every update in a pool is at a position, and has what it relies on
there. -/
def Pool.Placed (w : Pool) : Prop :=
  ∀ (id : Nat) (u : Updater), w.updaters[id]? = some u →
    ∃ pos : Position, u.program = pos.program u.job ∧ Fits w.hub.store u.job pos

/-- Where an update stands after a turn: it did not move, or it has just
begun, or it took the turn. -/
inductive Came (w : Pool) (t : PoolTurn) (w' : Pool) (id : Nat) (u' : Updater) : Prop
  | rested (before : w.updaters[id]? = some u') (other : ∀ written, ¬t.Writes id written) :
      Came w t w' id u'
  | began (fresh : w.updaters[id]? = none) (program : u'.program = ofJob u'.job)
      (turn : t = .joined u'.job) : Came w t w' id u'
  | moved {u : Updater} {c : Option Call} (before : w.updaters[id]? = some u)
      (job : u'.job = u.job) (step : Step u.program w.hub c u'.program w'.hub)
      (turn : t = .stepped id c w.hub.store w'.hub.store) : Came w t w' id u'

theorem PoolStep.came (step : PoolStep w t w') (h : w'.updaters[id]? = some u') :
    Came w t w' id u' := by
  cases step with
  | joined job =>
    rcases Nat.lt_trichotomy id w.updaters.length with hlt | rfl | hgt
    · rw [List.getElem?_append_left hlt] at h
      exact .rested h fun _ h => h
    · rw [List.getElem?_concat_length] at h
      obtain rfl := Option.some.inj h
      exact .began (List.getElem?_eq_none (Nat.le_refl _)) rfl rfl
    · rw [List.getElem?_eq_none (by rw [List.length_append, List.length_singleton]; omega)] at h
      cases h
  | @stepped i u c p hub found step =>
    by_cases hid : i = id
    · subst hid
      rw [List.getElem?_set_self (List.getElem?_eq_some_iff.mp found).1] at h
      obtain rfl := Option.some.inj h
      exact .moved found rfl step rfl
    · rw [List.getElem?_set_ne hid] at h
      exact .rested h fun _ hw => hid hw.1
  | edited edit => exact .rested h fun _ h => h
  | passed passes => exact .rested h fun _ h => h

/-- A turn of an update leaves its job as it is, and other updates too. -/
theorem PoolStep.job (step : PoolStep w t w') (h : w.updaters[id]? = some u) :
    ∃ u', w'.updaters[id]? = some u' ∧ u'.job = u.job := by
  cases step with
  | joined job =>
    have hlt : id < w.updaters.length := (List.getElem?_eq_some_iff.mp h).1
    exact ⟨u, (List.getElem?_append_left hlt).trans h, rfl⟩
  | @stepped i v c p hub found step =>
    by_cases hid : i = id
    · subst hid
      rw [found] at h
      obtain rfl := Option.some.inj h
      exact ⟨_, List.getElem?_set_self (List.getElem?_eq_some_iff.mp found).1, rfl⟩
    · exact ⟨u, (List.getElem?_set_ne hid).trans h, rfl⟩
  | edited edit => exact ⟨u, h, rfl⟩
  | passed passes => exact ⟨u, h, rfl⟩

/-- Every turn makes the store later. -/
theorem PoolStep.later (step : PoolStep w t w') (hs : w.hub.store.Sound) (placed : w.Placed) :
    Later w.hub.store w'.hub.store := by
  cases step with
  | joined job => exact .refl hs
  | stepped found step =>
    obtain ⟨pos, hprogram, hfits⟩ := placed _ _ found
    rw [hprogram] at step
    obtain ⟨pos', -, moves⟩ := Moves.of_step step
    rcases moves.outcome hs hfits with quiet | ⟨written, wrote⟩
    · exact .of_consulted hs quiet.same
    · exact wrote.later
  | edited edit => exact .of_edit hs edit
  | passed passes =>
    rw [passes.aside.1]
    exact .refl hs

/-! ## What was written -/

/-- An update has written these conditions, in one of the turns. -/
def HasWritten (turns : List PoolTurn) (id : Nat) (conditions : List Condition) : Prop :=
  ∃ t ∈ turns, ∃ written : Resource, t.Writes id written ∧ written.conditions = conditions

theorem hasWritten_snoc {conditions : List Condition} :
    HasWritten (turns ++ [t]) id conditions ↔ HasWritten turns id conditions ∨
      ∃ written : Resource, t.Writes id written ∧ written.conditions = conditions := by
  constructor
  · rintro ⟨t', hmem, hwrites⟩
    rcases List.mem_append.mp hmem with hmem | hmem
    · exact .inl ⟨t', hmem, hwrites⟩
    · rw [List.mem_singleton.mp hmem] at hwrites
      exact .inr hwrites
  · rintro (⟨t', hmem, hwrites⟩ | hwrites)
    · exact ⟨t', List.mem_append_left _ hmem, hwrites⟩
    · exact ⟨t, List.mem_append_right _ (List.mem_singleton.mpr rfl), hwrites⟩

/-- What the turns of a pool keep: every update is at a position which says
whether and what it has written, and every write applied the mutations of
its update. -/
structure Pool.Kept (w : Pool) (turns : List PoolTurn) : Prop where
  sound : w.hub.store.Sound
  /-- An update is at a position that tells what it has written. -/
  placed : ∀ (id : Nat) (u : Updater), w.updaters[id]? = some u →
    ∃ pos : Position, u.program = pos.program u.job ∧ Fits w.hub.store u.job pos ∧
      ∀ conditions, pos.Returns conditions ↔ HasWritten turns id conditions
  /-- Every write applied the mutations. -/
  applied : ∀ t ∈ turns, ∀ (id : Nat) (written : Resource), t.Writes id written →
    ∃ u, w.updaters[id]? = some u ∧ t.Applies u.job written

theorem Pool.Kept.isPlaced (kept : w.Kept turns) : w.Placed := by
  intro id u hu
  obtain ⟨pos, hprogram, hfits, -⟩ := kept.placed id u hu
  exact ⟨pos, hprogram, hfits⟩

theorem Pool.kept_start (capacity : Nat) (calendar : Instant) :
    (Pool.start capacity calendar).Kept [] :=
  ⟨sound_empty, fun _ _ h => (nomatch h), fun _ h => (nomatch h)⟩

/-- The position of an update tells what it has written, also after a
turn. -/
theorem PoolStep.placed (kept : w.Kept turns) (step : PoolStep w t w')
    (hu' : w'.updaters[id]? = some u') :
    ∃ pos : Position, u'.program = pos.program u'.job ∧ Fits w'.hub.store u'.job pos ∧
      ∀ conditions, pos.Returns conditions ↔ HasWritten (turns ++ [t]) id conditions := by
  have hlater := step.later kept.sound kept.isPlaced
  cases step.came hu' with
  | rested before other =>
    obtain ⟨pos, hprogram, hfits, hreturns⟩ := kept.placed id u' before
    refine ⟨pos, hprogram, hfits.later hlater, fun conditions => ?_⟩
    rw [hreturns, hasWritten_snoc]
    exact ⟨.inl, fun h => h.resolve_right fun ⟨written, hw, _⟩ => other written hw⟩
  | began fresh program turn =>
    refine ⟨.reading 1 (u'.job.policy.attempts - 1), program, trivial, fun conditions => ?_⟩
    rw [hasWritten_snoc]
    constructor
    · exact False.elim
    · rintro (⟨t', hmem, written, hw, -⟩ | ⟨written, hw, -⟩)
      -- in the turns before nobody had this number
      · obtain ⟨u, hu, -⟩ := kept.applied t' hmem id written hw
        rw [fresh] at hu
        cases hu
      · rw [turn] at hw
        exact hw
  | @moved u c before job step turn =>
    obtain ⟨pos, hprogram, hfits, hreturns⟩ := kept.placed id u before
    rw [hprogram] at step
    obtain ⟨pos', hprogram', moves⟩ := Moves.of_step step
    rw [job, hprogram']
    -- what has been written changes with a write only, and a write is the first of its update
    rcases moves.outcome kept.sound hfits with quiet | ⟨written, wrote⟩
    · refine ⟨pos', rfl, quiet.fits, fun conditions => ?_⟩
      rw [quiet.returns, hreturns, hasWritten_snoc]
      refine ⟨.inl, fun h => h.resolve_right ?_⟩
      rintro ⟨written, hw, -⟩
      rw [turn] at hw
      exact quiet.none written hw.2
    · obtain rfl := wrote.position
      refine ⟨_, rfl, trivial, fun conditions => ?_⟩
      rw [hasWritten_snoc, turn]
      constructor
      · exact fun h => .inr ⟨written, ⟨rfl, (wrote.writes written).mpr rfl⟩, h⟩
      · rintro (hold | ⟨other, ⟨-, hw⟩, hother⟩)
        · exact absurd ((hreturns conditions).mpr hold) (wrote.first conditions)
        · rw [(wrote.writes other).mp hw] at hother
          exact hother

/-- A write applies the mutations of its update. -/
theorem PoolStep.applies (kept : w.Kept turns) (step : PoolStep w t w') {written : Resource}
    (hw : t.Writes id written) : ∃ u, w.updaters[id]? = some u ∧ t.Applies u.job written := by
  cases step with
  | @stepped i u c p hub found step =>
    obtain ⟨rfl, hw⟩ := hw
    obtain ⟨pos, hprogram, hfits⟩ := kept.isPlaced i u found
    rw [hprogram] at step
    obtain ⟨pos', -, moves⟩ := Moves.of_step step
    rcases moves.outcome kept.sound hfits with quiet | ⟨written', wrote⟩
    · exact absurd hw (quiet.none written)
    · obtain rfl := (wrote.writes written).mp hw
      exact ⟨u, found, wrote.applied⟩
  | joined job => exact hw.elim
  | edited edit => exact hw.elim
  | passed passes => exact hw.elim

/-- **A turn keeps it.** -/
theorem Pool.Kept.step (kept : w.Kept turns) (step : PoolStep w t w') :
    w'.Kept (turns ++ [t]) := by
  refine ⟨(step.later kept.sound kept.isPlaced).sound, fun id u' hu' => step.placed kept hu',
    fun t' hmem id written hw => ?_⟩
  have happlies : ∃ u, w.updaters[id]? = some u ∧ t'.Applies u.job written := by
    rcases List.mem_append.mp hmem with hmem | hmem
    · exact kept.applied t' hmem id written hw
    · obtain rfl := List.mem_singleton.mp hmem
      exact step.applies kept hw
  obtain ⟨u, hu, ha⟩ := happlies
  obtain ⟨u', hu', hjob⟩ := step.job hu
  exact ⟨u', hu', hjob ▸ ha⟩

theorem PoolRun.kept {capacity : Nat} {calendar : Instant}
    (run : PoolRun (Pool.start capacity calendar) turns w) : w.Kept turns := by
  induction run with
  | start => exact Pool.kept_start capacity calendar
  | step _ step ih => exact ih.step step

/-! ## Updates that do not undo each other -/

/-- Every update of an object sets one condition, and no two of them set
conditions of one type. -/
structure Pool.Apart (w : Pool) (kind : Kind) (key : Key) (desired : Nat → Condition) : Prop where
  /-- Each sets the condition that is desired of it. -/
  sets : ∀ (id : Nat) (u : Updater), w.updaters[id]? = some u → u.IsOn kind key →
    u.job.mutations = [Mutation.set (desired id)]
  /-- No two set a condition of one type. -/
  types : ∀ (i j : Nat) (u v : Updater), w.updaters[i]? = some u → w.updaters[j]? = some v →
    u.IsOn kind key → v.IsOn kind key → i ≠ j → (desired i).type ≠ (desired j).type

/-- The object shows a condition. -/
def Displays (s : MemoryStore) (kind : Kind) (key : Key) (d : Condition) : Prop :=
  ∃ stored, s.object? kind key = some stored ∧ d.Shows stored.conditions

/-- The object shows what the updates of it that came to a result have
set. -/
def Pool.Shows (w : Pool) (kind : Kind) (key : Key) (desired : Nat → Condition) : Prop :=
  ∀ (id : Nat) (u : Updater), w.updaters[id]? = some u →
    ∃ pos : Position, u.program = pos.program u.job ∧ Fits w.hub.store u.job pos ∧
      (u.IsOn kind key → pos.IsOk → Displays w.hub.store kind key (desired id))

section Apart

variable {kind : Kind} {key : Key} {desired : Nat → Condition}

theorem Pool.Apart.before (step : PoolStep w t w') (apart : w'.Apart kind key desired) :
    w.Apart kind key desired := by
  constructor
  · intro id u hu hon
    obtain ⟨u', hu', hjob⟩ := step.job hu
    rw [← hjob]
    exact apart.sets id u' hu' (by rwa [Updater.IsOn, hjob])
  · intro i j u v hu hv hon hon' hne
    obtain ⟨u', hu', hjob⟩ := step.job hu
    obtain ⟨v', hv', hjob'⟩ := step.job hv
    exact apart.types i j u' v' hu' hv' (by rwa [Updater.IsOn, hjob])
      (by rwa [Updater.IsOn, hjob']) hne

/-- What a single mutation makes of a status is what setting its condition
makes of it. -/
theorem set_of_applyAll {d : Condition} {cs cs' : List Condition}
    (h : Mutation.applyAll [Mutation.set d] cs = .ok cs') : Condition.set d cs = some cs' := by
  have hcons : Mutation.applyAll ([d].map Mutation.set) cs = .ok cs' := h
  obtain ⟨mid, hset, hmid⟩ := set_of_applyAll_cons hcons
  rw [hset, Except.ok.inj hmid]

/-- **An update leaves the others' conditions alone.** -/
theorem Displays.of_rested (displays : Displays w.hub.store kind key (desired id))
    (hs : w.hub.store.Sound) (placed : w.Placed) (step : PoolStep w t w')
    (apart : w.Apart kind key desired)
    (alone : ∀ before after, t = .edited before after →
      after.object? kind key = before.object? kind key)
    (hu : w.updaters[id]? = some u) (hon : u.IsOn kind key)
    (other : ∀ written, ¬t.Writes id written) :
    Displays w'.hub.store kind key (desired id) := by
  obtain ⟨stored, hstored, hshows⟩ := displays
  cases step with
  | joined job => exact ⟨stored, hstored, hshows⟩
  | edited edit => exact ⟨stored, (alone _ _ rfl).trans hstored, hshows⟩
  | passed passes => exact ⟨stored, by rw [passes.aside.1, hstored], hshows⟩
  | @stepped i v c p hub found step =>
    obtain ⟨pos, hprogram, hfits⟩ := placed i v found
    rw [hprogram] at step
    obtain ⟨pos', -, moves⟩ := Moves.of_step step
    rcases moves.outcome hs hfits with quiet | ⟨written, wrote⟩
    · exact ⟨stored, (quiet.same.object? kind key).trans hstored, hshows⟩
    · by_cases hv : (v.job.kind, v.job.key) = (kind, key)
      · obtain ⟨hkind, hkey⟩ := Prod.mk.inj hv
        -- somebody else wrote here, and sets a condition of another type
        have hne : i ≠ id := by
          rintro rfl
          exact other written ⟨rfl, (wrote.writes written).mpr rfl⟩
        obtain ⟨stored', n, hstored', happly, -⟩ := wrote.applied.stored
        rw [hkind, hkey, hstored] at hstored'
        obtain rfl := Option.some.inj hstored'
        rw [apart.sets i v found ⟨hkind, hkey⟩] at happly
        have htype := apart.types id i u v hu found hon ⟨hkind, hkey⟩ hne.symm
        refine ⟨written, ?_, hshows.set_of_ne (set_of_applyAll happly) htype⟩
        rw [← hkind, ← hkey]
        exact wrote.applied.found
      · exact ⟨stored, (wrote.applied.others hv).trans hstored, hshows⟩

/-- **An update that comes to a result** has set its condition, or found it
set. -/
theorem Displays.of_moves {job : UpdateJob} {pos pos' : Position} {h h' : Hub MemoryStore}
    {c : Option Call} {d : Condition} (before : pos.IsOk → Displays h.store kind key d)
    (hs : h.store.Sound) (fits : Fits h.store job pos) (moves : Moves job pos h c pos' h')
    (hkind : job.kind = kind) (hkey : job.key = key) (hsets : job.mutations = [Mutation.set d])
    (hok : pos'.IsOk) : Displays h'.store kind key d := by
  subst hkind hkey
  rcases moves.outcome hs fits with quiet | ⟨written, wrote⟩
  · have hdisplays : Displays h.store job.kind job.key d := by
      rcases quiet.ok hok with hpos | ⟨stored, hstored, happly⟩
      · exact before hpos
      · rw [hsets] at happly
        exact ⟨stored, hstored, Condition.shows_set (set_of_applyAll happly)⟩
    obtain ⟨stored, hstored, hshows⟩ := hdisplays
    exact ⟨stored, (quiet.same.object? _ _).trans hstored, hshows⟩
  · obtain ⟨stored, n, -, happly, -⟩ := wrote.applied.stored
    rw [hsets] at happly
    exact ⟨written, wrote.applied.found, Condition.shows_set (set_of_applyAll happly)⟩

theorem Pool.Shows.isPlaced (shows_ : w.Shows kind key desired) : w.Placed := by
  intro id u hu
  obtain ⟨pos, hprogram, hfits, -⟩ := shows_ id u hu
  exact ⟨pos, hprogram, hfits⟩

/-- **A turn keeps what the object shows**, as long as nobody else touches
it. -/
theorem Pool.Shows.step (shows_ : w.Shows kind key desired) (hs : w.hub.store.Sound)
    (step : PoolStep w t w') (apart : w.Apart kind key desired)
    (alone : ∀ before after, t = .edited before after →
      after.object? kind key = before.object? kind key) : w'.Shows kind key desired := by
  intro id u' hu'
  have hplaced := shows_.isPlaced
  have hlater := step.later hs hplaced
  cases step.came hu' with
  | rested before other =>
    obtain ⟨pos, hprogram, hfits, hdisplays⟩ := shows_ id u' before
    exact ⟨pos, hprogram, hfits.later hlater, fun hon hok =>
      (hdisplays hon hok).of_rested hs hplaced step apart alone before hon other⟩
  | began fresh program turn =>
    exact ⟨.reading 1 (u'.job.policy.attempts - 1), program, trivial, fun _ hok => hok.elim⟩
  | @moved u c before job step turn =>
    obtain ⟨pos, hprogram, hfits, hdisplays⟩ := shows_ id u before
    rw [hprogram] at step
    obtain ⟨pos', hprogram', moves⟩ := Moves.of_step step
    refine ⟨pos', hprogram'.trans (by rw [job]), ?_, fun hon hok => ?_⟩
    · rw [job]
      rcases moves.outcome hs hfits with quiet | ⟨written, wrote⟩
      · exact quiet.fits
      · rw [wrote.position]
        trivial
    · rw [Updater.IsOn, job] at hon
      exact .of_moves (hdisplays hon) hs hfits moves hon.1 hon.2 (apart.sets id u before hon) hok

/-- While nobody else touches the object, it shows what the updates of it
that came to a result have set. -/
theorem PoolRun.shows (run : PoolRun start turns w) (hs : start.hub.store.Sound)
    (before : start.Shows kind key desired) (apart : w.Apart kind key desired)
    (alone : ∀ before after, .edited before after ∈ turns →
      after.object? kind key = before.object? kind key) :
    w.hub.store.Sound ∧ w.Shows kind key desired := by
  induction run with
  | start => exact ⟨hs, before⟩
  | step run step ih =>
    have hapart := apart.before step
    obtain ⟨hsound, hshows⟩ := ih hapart fun before after h =>
      alone before after (List.mem_append_left _ h)
    refine ⟨(step.later hsound hshows.isPlaced).sound, hshows.step hsound step hapart ?_⟩
    rintro before after rfl
    exact alone before after (List.mem_append_right _ (List.mem_singleton.mpr rfl))

end Apart

/-! ## Runs in two parts -/

/-- A run can be cut anywhere. -/
theorem PoolRun.cut {early late : List PoolTurn} (run : PoolRun start turns w)
    (heq : turns = early ++ late) :
    ∃ mid, PoolRun start early mid ∧ PoolRun mid late w := by
  induction run generalizing late with
  | start =>
    obtain ⟨rfl, rfl⟩ := List.append_eq_nil_iff.mp heq.symm
    exact ⟨start, .start, .start⟩
  | @step turns w w' t run step ih =>
    rcases List.eq_nil_or_concat late with rfl | ⟨rest, last, rfl⟩
    · rw [List.append_nil] at heq
      exact ⟨w', heq ▸ .step run step, .start⟩
    · rw [List.concat_eq_append, ← List.append_assoc] at heq
      obtain ⟨hturns, hlast⟩ := List.append_inj' heq rfl
      obtain ⟨mid, hearly, hlate⟩ := ih hturns
      rw [List.concat_eq_append, ← List.singleton_inj.mp hlast]
      exact ⟨mid, hearly, .step hlate step⟩

/-- Every update has begun. -/
theorem PoolRun.joined {capacity : Nat} {calendar : Instant}
    (run : PoolRun (Pool.start capacity calendar) turns w) (hu : w.updaters[id]? = some u) :
    .joined u.job ∈ turns := by
  induction run generalizing id u with
  | start => cases hu
  | step _ step ih =>
    cases step.came hu with
    | rested before other => exact List.mem_append_left _ (ih before)
    | began fresh program turn =>
      exact List.mem_append_right _ (List.mem_singleton.mpr turn.symm)
    | moved before job step turn =>
      rw [job]
      exact List.mem_append_left _ (ih before)

/-- **No update is lost.** In every order of the steps of any updates and
of other writers, a write that succeeds applies the mutations of its update
to the status stored just before it and changes nothing else, and an update
returns that it has written exactly if it has. If from some time on only
updates touch an object that each set a condition of a type of their own,
then whenever one of them has returned without error the object shows its
condition. -/
theorem no_update_is_lost {capacity : Nat} {calendar : Instant}
    (run : PoolRun (Pool.start capacity calendar) turns w) :
    (∀ t ∈ turns, ∀ (id : Nat) (written : Resource), t.Writes id written →
      ∃ u, w.updaters[id]? = some u ∧ t.Applies u.job written ∧
        u.Returns written.conditions) ∧
    (∀ (id : Nat) (u : Updater) (conditions : List Condition), w.updaters[id]? = some u →
      u.program = .done (.ok ⟨conditions, true⟩) → HasWritten turns id conditions) ∧
    ∀ (kind : Kind) (key : Key) (desired : Nat → Condition) (early late : List PoolTurn),
      turns = early ++ late →
      (∀ job, .joined job ∈ early → ¬(job.kind = kind ∧ job.key = key)) →
      (∀ before after, .edited before after ∈ late →
        after.object? kind key = before.object? kind key) →
      w.Apart kind key desired →
      ∀ (id : Nat) (u : Updater) (result : UpdateResult), w.updaters[id]? = some u →
        u.IsOn kind key → u.program = .done (.ok result) →
        ∃ stored, w.hub.store.object? kind key = some stored ∧
          (desired id).Shows stored.conditions := by
  have kept := run.kept
  refine ⟨fun t ht id written hw => ?_, fun id u conditions hu hdone => ?_, ?_⟩
  · obtain ⟨u, hu, happlies⟩ := kept.applied t ht id written hw
    obtain ⟨pos, hprogram, -, hreturns⟩ := kept.placed id u hu
    exact ⟨u, hu, happlies, pos, hprogram, (hreturns _).mpr ⟨t, ht, written, hw, rfl⟩⟩
  · obtain ⟨pos, hprogram, -, hreturns⟩ := kept.placed id u hu
    obtain rfl := Position.eq_ended (hprogram.symm.trans hdone)
    exact (hreturns conditions).mp rfl
  · intro kind key desired early late heq hearly halone apart id u result hu hon hdone
    obtain ⟨mid, run₁, run₂⟩ := run.cut heq
    have hmid := run₁.kept
    -- nobody has begun on the object before then, so at first there is nothing to show
    have hshows : mid.Shows kind key desired := by
      intro id u hu
      obtain ⟨pos, hprogram, hfits, -⟩ := hmid.placed id u hu
      exact ⟨pos, hprogram, hfits, fun hon => absurd hon (hearly u.job (run₁.joined hu))⟩
    obtain ⟨-, hfinal⟩ := run₂.shows hmid.sound hshows apart halone
    obtain ⟨pos, hprogram, -, hdisplays⟩ := hfinal id u hu
    obtain rfl := Position.eq_ended (hprogram.symm.trans hdone)
    exact hdisplays hon trivial

/-! ## A race -/

/-- The pool after an update took its next step: calls get their usual
answer, and no sleep is cut short. -/
def Pool.advance (id : Nat) (w : Pool) : Pool :=
  match w.updaters[id]? with
  | none => w
  | some u => match u.program with
    | .call c next =>
      ⟨(w.hub.answer c).2, w.updaters.set id { u with program := next (w.hub.answer c).1 }⟩
    | .sleep _ _ next => ⟨w.hub, w.updaters.set id { u with program := next true }⟩
    | _ => w

/-- The pool after updates took steps in the given order. -/
def Pool.play (order : List Nat) (w : Pool) : Pool := order.foldl (fun w id => w.advance id) w

/-- The turn is a step of an update. -/
def PoolTurn.IsStep (t : PoolTurn) : Prop := ∃ id c before after, t = .stepped id c before after

theorem Pool.advance_run (run : PoolRun start turns w) (id : Nat) :
    ∃ steps, (∀ t ∈ steps, t.IsStep) ∧ PoolRun start (turns ++ steps) (w.advance id) := by
  have hrest : ∃ steps, (∀ t ∈ steps, t.IsStep) ∧ PoolRun start (turns ++ steps) w :=
    ⟨[], fun _ h => (nomatch h), by rwa [List.append_nil]⟩
  unfold Pool.advance
  cases hu : w.updaters[id]? with
  | none => exact hrest
  | some u =>
    have hone {c : Option Call} {p : Update} {hub : Hub MemoryStore}
        (step : Step u.program w.hub c p hub) :
        ∃ steps, (∀ t ∈ steps, t.IsStep) ∧ PoolRun start (turns ++ steps)
          ⟨hub, w.updaters.set id { u with program := p }⟩ := by
      refine ⟨_, fun t ht => ?_, .step run (.stepped hu step)⟩
      exact ⟨_, _, _, _, List.mem_singleton.mp ht⟩
    dsimp only
    split
    · rename_i c next hprogram
      exact hone (by rw [hprogram]; exact .call (.usual c w.hub))
    · rename_i delay deadline next hprogram
      exact hone (by rw [hprogram]; exact .rested ..)
    · exact hrest

theorem Pool.play_run (run : PoolRun start turns w) (order : List Nat) :
    ∃ steps, (∀ t ∈ steps, t.IsStep) ∧ PoolRun start (turns ++ steps) (w.play order) := by
  induction order generalizing turns w with
  | nil => exact ⟨[], fun _ h => (nomatch h), by rwa [List.append_nil]⟩
  | cons id order ih =>
    obtain ⟨steps, hsteps, hrun⟩ := Pool.advance_run run id
    obtain ⟨later, hlater, hrun⟩ := ih hrun
    refine ⟨steps ++ later, fun t ht => ?_, by rwa [← List.append_assoc]⟩
    exact (List.mem_append.mp ht).elim (hsteps t) (hlater t)

theorem Pool.jobs_advance (id : Nat) (w : Pool) :
    (w.advance id).updaters.map Updater.job = w.updaters.map Updater.job := by
  unfold Pool.advance
  cases hu : w.updaters[id]? with
  | none => rfl
  | some u =>
    have hset (p : Update) :
        (w.updaters.set id { u with program := p }).map Updater.job = w.updaters.map Updater.job := by
      refine List.ext_getElem? fun i => ?_
      rw [List.getElem?_map, List.getElem?_set, List.getElem?_map]
      by_cases hi : id = i
      · subst hi
        rw [if_pos rfl, if_pos (List.getElem?_eq_some_iff.mp hu).1, hu]
        rfl
      · rw [if_neg hi]
    dsimp only
    split
    · exact hset _
    · exact hset _
    · rfl

theorem Pool.jobs_play (order : List Nat) (w : Pool) :
    (w.play order).updaters.map Updater.job = w.updaters.map Updater.job := by
  induction order generalizing w with
  | nil => rfl
  | cons id order ih => exact (ih (w.advance id)).trans (w.jobs_advance id)

/-- The result of an update that has ended. -/
def Updater.result? (u : Updater) : Option (Except StoreError UpdateResult) :=
  match u.program with
  | .done result => some result
  | _ => none

theorem Updater.done_of_result? {result : Except StoreError UpdateResult}
    (h : u.result? = some result) : u.program = .done result := by
  unfold Updater.result? at h
  split at h
  · rename_i hprogram
    rw [hprogram, Option.some.inj h]
  · cases h

/-- A condition of a type, for updates that race. -/
def raced (type : String) : Condition := ⟨type, .holds, "Raced", "", Instant.epoch⟩

/-- The update that sets it on a cluster set. -/
def racer (type : String) : UpdateJob :=
  ⟨.set, Key.cluster "s", [Mutation.set (raced type)], .standard, none⟩

/-- A pool with a cluster set, where two updates of it have begun. -/
def Pool.race : Pool :=
  let w := Pool.start 1 Instant.epoch
  ⟨{ w.hub with store := (w.hub.store.put .set ⟨⟨"s", none, none, none, [], none⟩, []⟩).2 },
    [⟨racer "A", ofJob (racer "A")⟩, ⟨racer "B", ofJob (racer "B")⟩]⟩

/-- Both read before either writes, so the second loses its write and does
everything again; in the end both conditions are there. -/
theorem no_update_is_lost_raced : ∃ turns w, PoolRun (Pool.start 1 Instant.epoch) turns w ∧
    w.hub.counts.count .updateConflicts = 1 ∧
    HasWritten turns 1 [raced "A", raced "B"] ∧
    ∃ stored, w.hub.store.object? .set (Key.cluster "s") = some stored ∧
      (raced "A").Shows stored.conditions ∧ (raced "B").Shows stored.conditions := by
  let order := [0, 1, 0, 1, 1, 1, 1, 1, 1, 1, 0]
  let edited := PoolTurn.edited MemoryStore.empty Pool.race.hub.store
  have begun : PoolRun (Pool.start 1 Instant.epoch)
      ([edited] ++ [.joined (racer "A")] ++ [.joined (racer "B")]) Pool.race :=
    .step (.step (.step .start (.edited (.put _ _ _))) (.joined _ _)) (.joined _ _)
  obtain ⟨steps, hsteps, run⟩ := Pool.play_run begun order
  have hjobs : (Pool.race.play order).updaters.map Updater.job = [racer "A", racer "B"] :=
    Pool.jobs_play order Pool.race
  have hresults : (Pool.race.play order).updaters.map Updater.result? =
      [some (.ok ⟨[raced "A"], true⟩), some (.ok ⟨[raced "A", raced "B"], true⟩)] := by
    decide +kernel
  have hcount : (Pool.race.play order).hub.counts.count .updateConflicts = 1 := by
    decide +kernel
  generalize Pool.race.play order = w at run hjobs hresults hcount
  obtain ⟨u, others, hothers, hu, hrest⟩ := List.map_eq_cons_iff.mp hjobs
  obtain ⟨v, nobody, rfl, hv, hnil⟩ := List.map_eq_cons_iff.mp hrest
  obtain rfl := List.map_eq_nil_iff.mp hnil
  rw [hothers] at hresults
  obtain ⟨hru, htail⟩ := List.cons.inj hresults
  obtain ⟨hrv, -⟩ := List.cons.inj htail
  have hzero : w.updaters[0]? = some u := by rw [hothers]; rfl
  have hone : w.updaters[1]? = some v := by rw [hothers]; rfl
  have hcases {id : Nat} {u' : Updater} (h : w.updaters[id]? = some u') :
      (id = 0 ∧ u' = u) ∨ (id = 1 ∧ u' = v) := by
    rw [hothers] at h
    match id, h with
    | 0, h => exact .inl ⟨rfl, (Option.some.inj h).symm⟩
    | 1, h => exact .inr ⟨rfl, (Option.some.inj h).symm⟩
  let desired (id : Nat) : Condition := if id = 0 then raced "A" else raced "B"
  -- of the two updates each sets a type of its own
  have apart : w.Apart .set (Key.cluster "s") desired := by
    constructor
    · intro id u' h _
      rcases hcases h with ⟨rfl, rfl⟩ | ⟨rfl, rfl⟩
      · rw [hu]; rfl
      · rw [hv]; rfl
    · intro i j u' v' hi hj _ _ hne
      rcases hcases hi with ⟨rfl, -⟩ | ⟨rfl, -⟩ <;> rcases hcases hj with ⟨rfl, -⟩ | ⟨rfl, -⟩
      · exact absurd rfl hne
      · change "A" ≠ "B"
        decide
      · change "B" ≠ "A"
        decide
      · exact absurd rfl hne
  have law := no_update_is_lost run
  have shown := law.2.2 .set (Key.cluster "s") desired [edited]
    ([.joined (racer "A")] ++ [.joined (racer "B")] ++ steps) (by simp) (by simp [edited])
    (fun before after h => by
      rcases List.mem_append.mp h with h | h
      · simp at h
      · obtain ⟨_, _, _, _, heq⟩ := hsteps _ h
        cases heq) apart
  obtain ⟨stored, hstored, hA⟩ := shown 0 u _ hzero ⟨by rw [hu]; rfl, by rw [hu]; rfl⟩
    (Updater.done_of_result? hru)
  obtain ⟨stored', hstored', hB⟩ := shown 1 v _ hone ⟨by rw [hv]; rfl, by rw [hv]; rfl⟩
    (Updater.done_of_result? hrv)
  rw [hstored] at hstored'
  obtain rfl := Option.some.inj hstored'
  exact ⟨_, w, run, hcount, law.2.1 1 v _ hone (Updater.done_of_result? hrv),
    stored, hstored, hA, hB⟩

end ClusterFleet
