import ClusterFleet.Proofs.Sync.Changes

/-!
# Sync — a fleet whose watch lags behind

The authority changes members and sets, and the watch reports the changes
later, one after another and in order (`FeedStep`). The rebuilds of the
cache are kept in a log, for they decide what becomes of a set: it hears of
a member that leaves only through the cache, and a set that is reconciled
before the report arrives takes the member's place there. A set is
`Overtaken` when a member that its last rebuild selected was selected
again, by a rebuild of another set.
-/

namespace ClusterFleet

open MemoryStore

/-! ## The log of rebuilds -/

/-- What the last rebuild for a set selected, and the rebuilds after it. -/
def lastRebuild (set : String) :
    List (String × List String) → Option (List String × List (String × List String))
  | [] => none
  | rebuild :: later =>
    match lastRebuild set later with
    | some last => some last
    | none => if rebuild.1 = set then some (rebuild.2, later) else none

/-- A member is among those that some rebuilds selected. -/
def Taken (name : String) (rebuilds : List (String × List String)) : Prop :=
  ∃ rebuild ∈ rebuilds, name ∈ rebuild.2

/-- A member that the last rebuild for a set selected was selected again by a
later one, which was for another set. -/
def Overtaken (set : String) (log : List (String × List String)) : Prop :=
  ∃ selected later, lastRebuild set log = some (selected, later) ∧
    ∃ name ∈ selected, Taken name later

section Log

variable {set name : String} {log later : List (String × List String)}
variable {rebuild : String × List String}

theorem lastRebuild_append_self (h : rebuild.1 = set) (log : List (String × List String)) :
    lastRebuild set (log ++ [rebuild]) = some (rebuild.2, []) := by
  induction log with
  | nil => exact if_pos h
  | cons first rest ih => rw [List.cons_append, lastRebuild, ih]

theorem lastRebuild_append_of_ne (h : rebuild.1 ≠ set) (log : List (String × List String)) :
    lastRebuild set (log ++ [rebuild]) =
      (lastRebuild set log).map fun last => (last.1, last.2 ++ [rebuild]) := by
  induction log with
  | nil => exact if_neg h
  | cons first rest ih =>
    rw [List.cons_append, lastRebuild, ih, lastRebuild]
    cases lastRebuild set rest with
    | some last => rfl
    | none =>
      simp only [Option.map_none]
      split
      · rfl
      · rfl

theorem taken_append : Taken name (later ++ [rebuild]) ↔ Taken name later ∨ name ∈ rebuild.2 := by
  constructor
  · rintro ⟨e, he, hname⟩
    rcases List.mem_append.mp he with he | he
    · exact .inl ⟨e, he, hname⟩
    · exact .inr (List.mem_singleton.mp he ▸ hname)
  · rintro (⟨e, he, hname⟩ | hname)
    · exact ⟨e, List.mem_append_left _ he, hname⟩
    · exact ⟨rebuild, List.mem_append_right _ (List.mem_singleton.mpr rfl), hname⟩

end Log

/-! ## The fleet -/

/-- A change that was not reported yet: of a member, or of a set that was
put. -/
inductive News where
  | member (change : Change)
  | set (object : Resource)
  deriving DecidableEq

/-- What the runner does when it hears of a change. -/
def News.hear : News → Program Unit
  | .member change => Runner.onMember change
  | .set object => Runner.onSet (.applied object)

/-- A fleet whose watch lags behind. -/
structure Feed where
  hub : Hub MemoryStore
  /-- The changes that were not reported yet, oldest first. -/
  news : List News
  /-- The rebuilds of the cache so far, oldest first. -/
  log : List (String × List String)

namespace Feed

/-- A fleet where nothing has happened yet. -/
def start (capacity : Nat) (calendar : Instant) : Feed := ⟨.start .empty capacity calendar, [], []⟩

/-- A change of a member names a set, and was not reported yet. -/
def Names (w : Feed) (set : String) : Prop :=
  ∃ change, .member change ∈ w.news ∧ change.object.clusterSet? = some set

/-- A change of a member was not reported yet. -/
def Concerns (w : Feed) (name : String) : Prop :=
  ∃ change, .member change ∈ w.news ∧ change.object.name = name

/-- A set was put, and this was not reported yet. -/
def Announces (w : Feed) (key : Key) : Prop :=
  ∃ object, .set object ∈ w.news ∧ object.key = key

/-- Nothing is left to report and nothing left to work on, nobody works, and
no key was dropped. -/
structure IsQuiet (w : Feed) : Prop where
  reported : w.news = []
  empty : w.hub.queue.order = []
  idle : w.hub.queue.processing = []
  kept : w.hub.queue.dropped = 0
  settled : w.hub.delayed = []

end Feed

/-- A step of a fleet whose watch lags behind. -/
inductive FeedStep (settings : Settings) : Feed → Feed → Prop
  | member {w : Feed} {change : Change} {store : MemoryStore}
      (reported : Reported .member w.hub.store change store) :
      FeedStep settings w
        ⟨{ w.hub with store := store }, w.news ++ [.member change], w.log⟩
  | set {w : Feed} {r : Resource} (cluster : r.metadata.ns = none) :
      FeedStep settings w
        ⟨{ w.hub with store := (w.hub.store.put .set r).2 },
          w.news ++ [.set (w.hub.store.put .set r).1], w.log⟩
  | heard {w : Feed} {item : News} {rest : List News} {calls : List Call}
      {ending : Hub.Ending Unit} {hub : Hub MemoryStore} (oldest : w.news = item :: rest)
      (run : Runs item.hear w.hub calls ending hub) : FeedStep settings w ⟨hub, rest, w.log⟩
  | turn {w : Feed} {calls : List Call} {ending : Hub.Ending Bool} {hub : Hub MemoryStore}
      (run : Runs (Runner.processNext settings) w.hub calls ending hub) :
      FeedStep settings w ⟨hub, w.news, w.log ++ rebuilds calls⟩

/-- The states that a fleet reaches. -/
inductive FeedRun (settings : Settings) (start : Feed) : Feed → Prop
  | start : FeedRun settings start start
  | step {w w' : Feed} (run : FeedRun settings start w) (step : FeedStep settings w w') :
      FeedRun settings start w'

/-! ## Runs that are played -/

/-- Hub and news of a fleet in a run that is played, with nothing between the
calls of the runner. -/
structure Scene where
  hub : Hub MemoryStore
  /-- The changes that were not reported yet, oldest first. -/
  news : List News

namespace Scene

/-- The scene where nothing has happened yet. -/
def start (capacity : Nat) : Scene := ⟨.start .empty capacity Instant.epoch, []⟩

/-- A set is put. -/
def putSet (r : Resource) (x : Scene) : Scene :=
  ⟨{ x.hub with store := (x.hub.store.put .set r).2 }, x.news ++ [.set (x.hub.store.put .set r).1]⟩

/-- A member is put. -/
def putMember (r : Resource) (x : Scene) : Scene :=
  ⟨{ x.hub with store := (x.hub.store.put .member r).2 },
    x.news ++ [.member (.applied (x.hub.store.put .member r).1)]⟩

/-- The oldest change is reported, if there is one. -/
def hear (x : Scene) : Scene :=
  match x.news with
  | [] => x
  | item :: rest => ⟨(Hub.runAlone item.hear x.hub).2, rest⟩

/-- The runner works on the next key. -/
def work (settings : Settings) (x : Scene) : Scene :=
  ⟨(Hub.runAlone (Runner.processNext settings) x.hub).2, x.news⟩

/-- A fleet can be in this scene. -/
def Reached (settings : Settings) (capacity : Nat) (x : Scene) : Prop :=
  ∃ log, FeedRun settings (.start capacity Instant.epoch) ⟨x.hub, x.news, log⟩

variable {settings : Settings} {capacity : Nat} {x : Scene}

theorem reached_start (settings : Settings) (capacity : Nat) :
    (start capacity).Reached settings capacity := ⟨[], .start⟩

theorem Reached.putSet (h : x.Reached settings capacity) {r : Resource}
    (cluster : r.metadata.ns = none) : (x.putSet r).Reached settings capacity := by
  obtain ⟨log, run⟩ := h
  exact ⟨log, run.step (.set cluster)⟩

theorem Reached.putMember (h : x.Reached settings capacity) {r : Resource}
    (cluster : r.metadata.ns = none) : (x.putMember r).Reached settings capacity := by
  obtain ⟨log, run⟩ := h
  exact ⟨log, run.step (.member (.put cluster))⟩

theorem Reached.hear (h : x.Reached settings capacity) : x.hear.Reached settings capacity := by
  obtain ⟨log, run⟩ := h
  unfold Scene.hear
  split
  · exact ⟨log, run⟩
  · rename_i item rest hnews
    obtain ⟨calls, told⟩ := Runs.of_runAlone item.hear x.hub
    exact ⟨log, run.step (.heard hnews told)⟩

theorem Reached.work (h : x.Reached settings capacity) :
    (x.work settings).Reached settings capacity := by
  obtain ⟨log, run⟩ := h
  obtain ⟨calls, turn⟩ := Runs.of_runAlone (Runner.processNext settings) x.hub
  exact ⟨_, run.step (.turn turn)⟩

end Scene

end ClusterFleet
