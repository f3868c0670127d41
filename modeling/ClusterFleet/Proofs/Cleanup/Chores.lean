import ClusterFleet.Cleanup.Group

/-!
# Cleanup — the chores of a pass

Which requests a pass over the bindings of a reach has to make follows from
the bindings alone: one `Chore` for each that names the group
(`chores`). The pass goes through them in order and stops at the first one
that fails (`stripAll_eq`).

The requests that it makes are seen by a watcher. `Watched` is a cluster
that keeps a record of its requests and otherwise is as before: a pass on it
is the pass on the cluster (`run_watched`), and `run_course` says what the
record holds, next to the events and the result.
-/

namespace ClusterFleet

/-! ## What there is to do -/

namespace Binding

/-- A subject of the binding is the group. -/
def Names (group : String) (b : Binding) : Prop :=
  ∃ s ∈ b.members, s.kind = "Group" ∧ s.name = group

instance (group : String) (b : Binding) : Decidable (b.Names group) :=
  inferInstanceAs (Decidable (∃ s ∈ b.members, s.kind = "Group" ∧ s.name = group))

/-- The subjects of the binding other than the group, in their order. -/
def others (group : String) (b : Binding) : List Subject :=
  b.members.filter fun s => ¬(s.kind = "Group" ∧ s.name = group)

/-- The binding without the group. -/
def without (group : String) (b : Binding) : Binding :=
  { b with subjects := some (b.others group) }

variable {group : String} {b : Binding}

theorem filter_isGroup (group : String) (b : Binding) :
    (b.members.filter fun s => !s.isGroup group) = b.others group := by
  refine List.filter_congr fun s _ => ?_
  rw [Subject.isGroup, decide_not, Bool.decide_and]

theorem others_length : (b.others group).length = b.members.length ↔ ¬b.Names group := by
  rw [others, List.length_filter_eq_length_iff, Names]
  simp only [decide_eq_true_eq, not_exists, not_and]

/-- **What taking the group out comes to** is decided by whether the group is
there and whether anybody else is. -/
theorem stripGroup_eq (group : String) (b : Binding) : stripGroup group b.members =
    if b.Names group then
      if b.others group = [] then .delete else .update (b.others group)
    else .unchanged := by
  simp only [stripGroup, filter_isGroup, others_length, List.isEmpty_iff]
  rw [ite_not]

end Binding

/-- A request that changes a binding. -/
inductive BindingChange where
  /-- Replaces a binding by this one. -/
  | replace (reach : Reach) (b : Binding)
  /-- Deletes the binding of a namespace and name. -/
  | delete (reach : Reach) (ns name : String)

/-- Makes the request. -/
def BindingChange.send {σ : Type} [Access σ] : BindingChange → σ → Except ApiError Unit × σ
  | .replace reach b => Access.replaceBinding reach b
  | .delete reach ns name => Access.deleteBinding reach ns name

/-- What there is to do about a binding. -/
structure Chore where
  /-- The request to make. -/
  change : BindingChange
  /-- What it attempts, in words. -/
  attempt : String
  /-- The event to tell when it is done. -/
  event : Event

/-- A request of cleanup. -/
inductive CleanupCall where
  /-- For all bindings of a reach. -/
  | list (reach : Reach)
  /-- For the change of one. -/
  | change (c : BindingChange)
  /-- For the deletion of an object. -/
  | remove (t : Target)

/-- The requests of cleanup in order, each with the error it met if it
failed. -/
abbrev CallRecord : Type := List (CleanupCall × Option ApiError)

namespace GroupCleanup

/-- What there is to do about a binding: nothing unless it names the group. -/
def chore? (reach : Reach) (group : String) (b : Binding) : Option Chore :=
  if b.Names group then
    some <| if b.others group = [] then
      ⟨.delete reach b.ns b.name, "deleting " ++ bindingName reach b, deletedEvent reach b⟩
    else
      ⟨.replace reach (b.without group), "updating " ++ bindingName reach b, updatedEvent reach b⟩
  else none

/-- What there is to do about bindings, in their order. -/
def chores (reach : Reach) (group : String) (bindings : List Binding) : List Chore :=
  bindings.filterMap (chore? reach group)

section Chores

variable {σ : Type} [Access σ] {reach : Reach} {group : String} {b : Binding} {chore : Chore}

/-- Does chores one after another, up to the first that fails. -/
def runChores : List Chore → σ → Pass σ
  | [], s => ⟨.ok (), [], s⟩
  | chore :: rest, s =>
    match chore.change.send s with
    | (.error error, s) => ⟨.error (error.during chore.attempt), [], s⟩
    | (.ok (), s) =>
      let pass := runChores rest s
      { pass with events := chore.event :: pass.events }

theorem strip_of_none (h : chore? reach group b = none) (s : σ) :
    strip reach group b s = (.ok none, s) := by
  rw [strip, Binding.stripGroup_eq]
  rw [chore?] at h
  split at h
  · cases h
  · rename_i hnames
    rw [if_neg hnames]

theorem strip_of_some (h : chore? reach group b = some chore) (s : σ) :
    strip reach group b s =
      match chore.change.send s with
      | (.ok (), s) => (.ok (some chore.event), s)
      | (.error error, s) => (.error (error.during chore.attempt), s) := by
  rw [strip, Binding.stripGroup_eq]
  rw [chore?] at h
  split at h
  · rename_i hnames
    rw [if_pos hnames]
    split at h
    · rename_i hnobody
      cases h
      rw [if_pos hnobody]
      rfl
    · rename_i hsomebody
      cases h
      rw [if_neg hsomebody]
      rfl
  · cases h

/-- **A pass does its chores.** -/
theorem stripAll_eq (reach : Reach) (group : String) (bindings : List Binding) (s : σ) :
    stripAll reach group bindings s = runChores (chores reach group bindings) s := by
  induction bindings generalizing s with
  | nil => rfl
  | cons b rest ih =>
    rw [stripAll, chores, List.filterMap_cons]
    cases h : chore? reach group b with
    | none =>
      rw [strip_of_none h]
      exact ih s
    | some chore =>
      rw [strip_of_some h, runChores]
      rcases chore.change.send s with ⟨⟨_⟩ | ⟨⟩, s'⟩
      · rfl
      · simp only [ih]
        rfl

end Chores

end GroupCleanup

/-! ## Watching -/

/-- A cluster, and the requests made to it. -/
structure Watched (σ : Type) where
  /-- The cluster. -/
  cluster : σ
  /-- The requests so far. -/
  calls : CallRecord

namespace Watched

variable {σ : Type}

/-- A cluster that is watched from now on. -/
def of (s : σ) : Watched σ := ⟨s, []⟩

/-- The error of a request, if it failed. -/
def error? {α : Type} : Except ApiError α → Option ApiError
  | .error e => some e
  | .ok _ => none

/-- Answers a request and takes it down. -/
def note {α : Type} (call : CleanupCall) (answer : σ → Except ApiError α × σ) (w : Watched σ) :
    Except ApiError α × Watched σ :=
  ((answer w.cluster).1, ⟨(answer w.cluster).2, w.calls ++ [(call, error? (answer w.cluster).1)]⟩)

variable [Access σ]

instance : Access (Watched σ) where
  listBindings reach := note (.list reach) (Access.listBindings reach)
  replaceBinding reach b := note (.change (.replace reach b)) (Access.replaceBinding reach b)
  deleteBinding reach ns name :=
    note (.change (.delete reach ns name)) (Access.deleteBinding reach ns name)
  deleteTarget t := note (.remove t) (Access.deleteTarget t)

theorem send (c : BindingChange) (w : Watched σ) : c.send w = note (.change c) c.send w := by
  cases c <;> rfl

end Watched

/-- The pass as it is on a watched cluster, with this record after it. -/
def Pass.watched {σ : Type} (pass : Pass σ) (record : CallRecord) : Pass (Watched σ) :=
  ⟨pass.result, pass.events, ⟨pass.cluster, record⟩⟩

namespace GroupCleanup

variable {σ : Type} [Access σ] {reach : Reach} {group : String}

/-- The requests of a pass. -/
def calls (reach : Reach) (group : String) (s : σ) : CallRecord :=
  (run reach group (Watched.of s)).cluster.calls

/-- The requests of both passes. -/
def allCalls (group : String) (s : σ) : CallRecord :=
  (runAll group (Watched.of s)).cluster.calls

/-! ## The course of a pass -/

/-- How chores end: all are done, or one failed and those before it are
done. -/
inductive ChoresEnd (chores : List Chore) :
    CallRecord → List Event → Except Failure Unit → Prop
  | done : ChoresEnd chores (chores.map fun chore => (.change chore.change, none))
      (chores.map Chore.event) (.ok ())
  | stopped (done later : List Chore) (failed : Chore) (error : ApiError)
      (split : chores = done ++ failed :: later) :
      ChoresEnd chores
        ((done.map fun chore => (.change chore.change, none)) ++
          [(.change failed.change, some error)])
        (done.map Chore.event) (.error (error.during failed.attempt))

/-- The course of a pass, given what its request for the bindings brought. -/
inductive Course (reach : Reach) (group : String) :
    Except ApiError (List Binding) → CallRecord → List Event → Except Failure Unit → Prop
  | unlisted (error : ApiError) :
      Course reach group (.error error) [(.list reach, some error)] []
        (.error (error.during ("listing " ++ collectionName reach)))
  | listed {bindings : List Binding} {calls : CallRecord} {events : List Event}
      {result : Except Failure Unit}
      (rest : ChoresEnd (chores reach group bindings) calls events result) :
      Course reach group (.ok bindings) ((.list reach, none) :: calls) events result

/-- One more chore before the others, done. -/
theorem ChoresEnd.cons {chores : List Chore} {calls : CallRecord} {events : List Event}
    {result : Except Failure Unit} (chore : Chore) (rest : ChoresEnd chores calls events result) :
    ChoresEnd (chore :: chores) ((.change chore.change, none) :: calls) (chore.event :: events)
      result := by
  cases rest with
  | done => exact .done
  | stopped done later failed error split =>
    exact .stopped (chore :: done) later failed error (congrArg (chore :: ·) split)

/-- Chores on a watched cluster are those on the cluster, with their requests
after whatever is on record. -/
theorem runChores_watched (chores : List Chore) (s : σ) :
    ∃ record, (∀ before, runChores chores (⟨s, before⟩ : Watched σ) =
        (runChores chores s).watched (before ++ record)) ∧
      ChoresEnd chores record (runChores chores s).events (runChores chores s).result := by
  induction chores generalizing s with
  | nil => exact ⟨[], fun before => by rw [List.append_nil]; rfl, .done⟩
  | cons chore rest ih =>
    simp only [runChores, Watched.send, Watched.note]
    rcases chore.change.send s with ⟨⟨error⟩ | ⟨⟩, s'⟩
    · exact ⟨_, fun _ => rfl, .stopped [] rest chore error rfl⟩
    · obtain ⟨record, hwatched, hends⟩ := ih s'
      refine ⟨(.change chore.change, none) :: record, fun before => ?_, hends.cons chore⟩
      simp only [hwatched, Watched.error?, List.append_assoc]
      rfl

theorem run_recorded (reach : Reach) (group : String) (s : σ) :
    ∃ record, (∀ before, run reach group (⟨s, before⟩ : Watched σ) =
        (run reach group s).watched (before ++ record)) ∧
      Course reach group (Access.listBindings reach s).1 record
        (run reach group s).events (run reach group s).result := by
  have hlist (before : CallRecord) : Access.listBindings reach (⟨s, before⟩ : Watched σ) =
      Watched.note (.list reach) (Access.listBindings reach) ⟨s, before⟩ := rfl
  simp only [run, hlist, Watched.note]
  rcases Access.listBindings reach s with ⟨⟨error⟩ | ⟨bindings⟩, s'⟩
  · exact ⟨_, fun _ => rfl, .unlisted error⟩
  · simp only [stripAll_eq]
    obtain ⟨record, hwatched, hends⟩ := runChores_watched (chores reach group bindings) s'
    refine ⟨(.list reach, none) :: record, fun before => ?_, .listed hends⟩
    simp only [hwatched, Watched.error?, List.append_assoc]
    rfl

/-- **Watching changes nothing** but the record. -/
theorem run_watched (reach : Reach) (group : String) (s : σ) (before : CallRecord) :
    run reach group (⟨s, before⟩ : Watched σ) =
      (run reach group s).watched (before ++ calls reach group s) := by
  obtain ⟨record, hwatched, -⟩ := run_recorded reach group s
  have hcalls : calls reach group s = record :=
    congrArg (fun pass : Pass (Watched σ) => pass.cluster.calls) (hwatched [])
  rw [hwatched, hcalls]

/-- **The course of a pass.** -/
theorem run_course (reach : Reach) (group : String) (s : σ) :
    Course reach group (Access.listBindings reach s).1 (calls reach group s)
      (run reach group s).events (run reach group s).result := by
  obtain ⟨record, hwatched, course⟩ := run_recorded reach group s
  have hcalls : calls reach group s = record :=
    congrArg (fun pass : Pass (Watched σ) => pass.cluster.calls) (hwatched [])
  rwa [hcalls]

theorem ChoresEnd.ok_iff {chores : List Chore} {calls : CallRecord} {events : List Event}
    {result : Except Failure Unit} (ends : ChoresEnd chores calls events result) :
    result = .ok () ↔ ∀ call ∈ calls, call.2 = none := by
  cases ends with
  | done => simp only [List.forall_mem_map, implies_true]
  | stopped =>
    simp only [List.forall_mem_append, List.forall_mem_singleton, reduceCtorEq, and_false]

/-- **A pass ends well just if no request failed.** -/
theorem Course.ok_iff {listing : Except ApiError (List Binding)} {calls : CallRecord}
    {events : List Event} {result : Except Failure Unit}
    (course : Course reach group listing calls events result) :
    result = .ok () ↔ ∀ call ∈ calls, call.2 = none := by
  cases course with
  | unlisted error => simp only [List.forall_mem_singleton, reduceCtorEq]
  | listed rest => rw [rest.ok_iff, List.forall_mem_cons, and_iff_right rfl]

/-! ## Both passes -/

/-- The second pass is made only if the first ended well. -/
theorem runAll_eq (group : String) (s : σ) : runAll group s =
    match (run .cluster group s).result with
    | .error _ => run .cluster group s
    | .ok () =>
      let second := run .namespaced group (run .cluster group s).cluster
      { second with events := (run .cluster group s).events ++ second.events } := by
  rw [runAll]
  rcases run .cluster group s with ⟨⟨failure⟩ | ⟨⟩, events, s'⟩ <;> rfl

theorem runAll_watched (group : String) (s : σ) :
    runAll group (Watched.of s) = (runAll group s).watched
      (match (run .cluster group s).result with
      | .error _ => calls .cluster group s
      | .ok () =>
        calls .cluster group s ++ calls .namespaced group (run .cluster group s).cluster) := by
  have hfirst : run .cluster group (Watched.of s) =
      (run .cluster group s).watched (calls .cluster group s) := run_watched .cluster group s []
  rw [runAll_eq, runAll_eq, hfirst]
  rcases run .cluster group s with ⟨⟨failure⟩ | ⟨⟩, events, s'⟩
  · rfl
  · simp only [Pass.watched]
    rw [run_watched]
    rfl

theorem allCalls_eq (group : String) (s : σ) : allCalls group s =
    match (run .cluster group s).result with
    | .error _ => calls .cluster group s
    | .ok () =>
      calls .cluster group s ++ calls .namespaced group (run .cluster group s).cluster :=
  congrArg (fun pass : Pass (Watched σ) => pass.cluster.calls) (runAll_watched group s)

/-- Both passes end well just if no request failed. -/
theorem runAll_ok_iff (group : String) (s : σ) :
    (runAll group s).result = .ok () ↔ ∀ call ∈ allCalls group s, call.2 = none := by
  have hfirst := (run_course .cluster group s).ok_iff
  have hsecond := (run_course .namespaced group (run .cluster group s).cluster).ok_iff
  rw [runAll_eq, allCalls_eq]
  cases h : (run .cluster group s).result with
  | error failure => rw [← hfirst]
  | ok => rw [List.forall_mem_append, ← hfirst, ← hsecond, h, and_iff_right rfl]

end GroupCleanup

end ClusterFleet
