import ClusterFleet.Command.Execution
import ClusterFleet.Proofs.Cleanup.Holdings

/-!
# Cleanup — what a pass leaves

On a cluster that does what it accepts, a pass that ends well has taken the
group out and nothing else: `Stripped` says what becomes of each place
(`run_stripped`), and `Cleansed` what that means for those who are granted
something. It also means that there is nothing left to do, so that a second
pass only lists (`calls_of_unnamed`).

The chores of a pass are about different places, so each finds its binding
as it was listed, whatever those before it did.
-/

namespace ClusterFleet

namespace Binding

variable {group : String} {b c : Binding}

theorem others_of_not_names (h : ¬b.Names group) : b.others group = b.members :=
  List.filter_eq_self.2 fun s hs => decide_eq_true fun hgroup => h ⟨s, hs, hgroup⟩

theorem not_names_of_members (h : c.members = b.others group) : ¬c.Names group := by
  rintro ⟨s, hs, hgroup⟩
  rw [h, others, List.mem_filter] at hs
  exact of_decide_eq_true hs.2 hgroup

end Binding

/-! ## The command -/

namespace Command

theorem ofPass_snd (pass : Pass Server) : (ofPass pass).2 = pass.cluster := by
  rw [ofPass]
  split <;> rfl

/-- The command ends well just if the pass does. -/
theorem ofPass_exit (pass : Pass Server) : (ofPass pass).1.exit = 0 ↔ pass.result = .ok () := by
  rw [ofPass]
  split
  · rename_i h
    exact iff_of_true rfl h
  · rename_i failure h
    exact iff_of_false Nat.one_ne_zero (by simp [h])

end Command

/-! ## What becomes of a place -/

namespace GroupCleanup

/-- What becomes of a place: a binding that does not name the group stays as
it is, one that names nobody else goes, and any other one keeps the rest of
its subjects. -/
inductive Stripped (reach : Reach) (group : String) : Option Binding → Option Binding → Prop
  | empty : Stripped reach group none none
  | untouched {b : Binding} (unnamed : ¬b.Names group) : Stripped reach group (some b) (some b)
  | deleted {b : Binding} (named : b.Names group) (alone : b.others group = []) :
      Stripped reach group (some b) none
  | replaced {b kept : Binding} (named : b.Names group)
      (taken : (b.without group).KeptAs reach kept) : Stripped reach group (some b) (some kept)

/-- The bindings of a reach before and after the group was taken out. -/
structure Cleansed (group : String) (before after : String × String → Option Binding) : Prop where
  /-- No binding names the group. -/
  unnamed : ∀ {p c}, after p = some c → ¬c.Names group
  /-- Whoever else was granted a role at a place is granted it there. -/
  granted : ∀ {p b}, before p = some b → ∀ m ∈ b.others group,
    ∃ c, after p = some c ∧ c.role = b.role ∧ m ∈ c.members
  /-- Nobody is granted a role who was not before, and the order is kept. -/
  old : ∀ {p c}, after p = some c →
    ∃ b, before p = some b ∧ c.role = b.role ∧ c.members = b.others group
  /-- A binding that did not name the group is there as it was, one without
  subjects too. -/
  untouched : ∀ {p b}, before p = some b → ¬b.Names group → after p = some b

variable {reach : Reach} {group : String} {b c : Binding} {before after : Option Binding}

/-- What is there was there, with the others among its subjects. -/
theorem Stripped.old (h : Stripped reach group before after) (hc : after = some c) :
    ∃ b, before = some b ∧ c.role = b.role ∧ c.members = b.others group := by
  cases h with
  | empty | deleted => cases hc
  | untouched unnamed =>
    cases hc
    exact ⟨c, rfl, rfl, (Binding.others_of_not_names unnamed).symm⟩
  | replaced _ taken =>
    cases hc
    exact ⟨_, rfl, taken.role, congrArg (fun subjects => subjects.getD []) taken.subjects⟩

/-- A binding of anybody else is not gone. -/
theorem Stripped.there (h : Stripped reach group (some b) after) {m : Subject}
    (hm : m ∈ b.others group) : ∃ c, after = some c := by
  cases h with
  | untouched => exact ⟨_, rfl⟩
  | deleted _ alone => exact absurd (alone ▸ hm) List.not_mem_nil
  | replaced => exact ⟨_, rfl⟩

theorem Stripped.same (h : Stripped reach group (some b) after) (unnamed : ¬b.Names group) :
    after = some b := by
  cases h with
  | untouched => rfl
  | deleted named => exact absurd named unnamed
  | replaced named => exact absurd named unnamed

/-- Places that are stripped one by one are cleansed. -/
theorem Cleansed.of_stripped {before after : String × String → Option Binding}
    (h : ∀ p, Stripped reach group (before p) (after p)) : Cleansed group before after where
  unnamed {p c} hc := by
    obtain ⟨b, -, -, hmembers⟩ := (h p).old hc
    exact Binding.not_names_of_members hmembers
  granted {p b} hb m hm := by
    have hstripped : Stripped reach group (some b) (after p) := hb ▸ h p
    obtain ⟨c, hc⟩ := hstripped.there hm
    obtain ⟨b', hb', hrole, hmembers⟩ := hstripped.old hc
    cases hb'
    exact ⟨c, hc, hrole, hmembers ▸ hm⟩
  old {p c} hc := (h p).old hc
  untouched {p b} hb hunnamed := by
    have hstripped : Stripped reach group (some b) (after p) := hb ▸ h p
    exact hstripped.same hunnamed

/-! ## A pass, chore by chore -/

variable {σ : Type} [Access σ] {held : σ → Holdings} {s s' : σ}

/-- **A chore that is done** strips the place of its binding, and touches no
other. -/
theorem chore_done (obedient : Obedient held) {chore : Chore}
    (hchore : chore? reach group b = some chore) (hsent : chore.change.send s = (.ok (), s')) :
    ∃ after, Stripped reach group (some b) after ∧
      held s' = (held s).set reach (b.place reach) after := by
  rw [chore?] at hchore
  split at hchore
  · rename_i named
    split at hchore
    · rename_i alone
      cases hchore
      exact ⟨none, .deleted named alone, obedient.deleted hsent⟩
    · cases hchore
      obtain ⟨kept, taken, hheld⟩ := obedient.replaced hsent
      exact ⟨some kept, .replaced named taken, hheld⟩
  · cases hchore

/-- A pass that goes well starts with a chore that does. -/
theorem runChores_cons_ok {chore : Chore} {rest : List Chore}
    (h : (runChores (chore :: rest) s).result = .ok ()) :
    ∃ s', chore.change.send s = (.ok (), s') ∧ (runChores rest s').result = .ok () ∧
      (runChores (chore :: rest) s).cluster = (runChores rest s').cluster := by
  rcases hsent : chore.change.send s with ⟨⟨error⟩ | ⟨⟩, s'⟩
  · rw [runChores, hsent] at h
    cases h
  · rw [runChores, hsent] at h ⊢
    exact ⟨s', rfl, h, rfl⟩

/-- What a pass that goes well does about its first binding, if anything. -/
theorem first_done (obedient : Obedient held) {bindings : List Binding}
    (hb : held s reach (b.place reach) = some b)
    (h : (runChores (chores reach group (b :: bindings)) s).result = .ok ()) :
    ∃ s' after, Stripped reach group (some b) after ∧
      held s' = (held s).set reach (b.place reach) after ∧
      (runChores (chores reach group bindings) s').result = .ok () ∧
      (runChores (chores reach group (b :: bindings)) s).cluster =
        (runChores (chores reach group bindings) s').cluster := by
  cases hchore : chore? reach group b with
  | none =>
    have unnamed : ¬b.Names group := fun named => by
      rw [chore?, if_pos named] at hchore
      cases hchore
    have hchores : chores reach group (b :: bindings) = chores reach group bindings :=
      List.filterMap_cons_none hchore
    rw [hchores] at h ⊢
    exact ⟨s, some b, .untouched unnamed, (Holdings.set_same hb).symm, h, rfl⟩
  | some chore =>
    have hchores : chores reach group (b :: bindings) = chore :: chores reach group bindings :=
      List.filterMap_cons_some hchore
    rw [hchores] at h ⊢
    obtain ⟨s', hsent, hrun, hcluster⟩ := runChores_cons_ok h
    obtain ⟨after, hafter, hset⟩ := chore_done obedient hchore hsent
    exact ⟨s', after, hafter, hset, hrun, hcluster⟩

/-- **Chores that are done** strip the places of the bindings that they are
about, and touch no other. -/
theorem chores_done (obedient : Obedient held) {bindings : List Binding}
    (distinct : (bindings.map (Binding.place reach)).Nodup)
    (hheld : ∀ b ∈ bindings, held s reach (b.place reach) = some b)
    (h : (runChores (chores reach group bindings) s).result = .ok ()) :
    (∀ b ∈ bindings, Stripped reach group (some b)
      (held (runChores (chores reach group bindings) s).cluster reach (b.place reach))) ∧
    ∀ r p, (r = reach → p ∉ bindings.map (Binding.place reach)) →
      held (runChores (chores reach group bindings) s).cluster r p = held s r p := by
  induction bindings generalizing s with
  | nil => exact ⟨fun b hb => absurd hb List.not_mem_nil, fun _ _ _ => rfl⟩
  | cons b rest ih =>
    rw [List.map_cons, List.nodup_cons] at distinct
    obtain ⟨hfresh, hdistinct⟩ := distinct
    obtain ⟨hb, hrest⟩ := List.forall_mem_cons.1 hheld
    obtain ⟨s₁, after, hafter, hset, hrun, hcluster⟩ := first_done obedient hb h
    -- the bindings that are left stand elsewhere
    have hrest₁ : ∀ c ∈ rest, held s₁ reach (c.place reach) = some c := fun c hc => by
      have hne : c.place reach ≠ b.place reach := fun heq => hfresh (heq ▸ List.mem_map_of_mem hc)
      rw [hset, Holdings.set_of_ne fun _ => hne]
      exact hrest c hc
    obtain ⟨hstripped, hframe⟩ := ih hdistinct hrest₁ hrun
    rw [hcluster]
    refine ⟨List.forall_mem_cons.2 ⟨?_, hstripped⟩, fun r p hp => ?_⟩
    · have hsame := hframe reach (b.place reach) fun _ => hfresh
      rw [hset, Holdings.set_self] at hsame
      exact hsame ▸ hafter
    · have hne (hr : r = reach) : p ≠ b.place reach := fun heq => hp hr (heq ▸ List.mem_cons_self)
      refine (hframe r p fun hr hmem => hp hr (List.mem_cons_of_mem _ hmem)).trans ?_
      rw [hset, Holdings.set_of_ne hne]

/-- **A pass that ends well** strips every place of its reach, and touches no
other reach. -/
theorem run_stripped (obedient : Obedient held) (h : (run reach group s).result = .ok ()) :
    (∀ p, Stripped reach group (held s reach p) (held (run reach group s).cluster reach p)) ∧
      ∀ other ≠ reach, held (run reach group s).cluster other = held s other := by
  rw [run] at h ⊢
  rcases hlist : Access.listBindings reach s with ⟨⟨error⟩ | ⟨bindings⟩, s₁⟩
  · rw [hlist] at h
    cases h
  · rw [hlist] at h
    simp only [stripAll_eq] at h ⊢
    obtain ⟨hsame, distinct, hheld⟩ := obedient.listed hlist
    rw [← hsame] at hheld ⊢
    obtain ⟨hstripped, hframe⟩ := chores_done obedient distinct (fun b hb => (hheld b).1 hb) h
    refine ⟨fun p => ?_, fun other hother => funext fun p =>
      hframe other p fun hr => absurd hr hother⟩
    cases hp : held s₁ reach p with
    | none =>
      have hfree : p ∉ bindings.map (Binding.place reach) := fun hmem => by
        obtain ⟨b, hb, rfl⟩ := List.mem_map.1 hmem
        cases hp.symm.trans ((hheld b).1 hb)
      rw [hframe reach p fun _ => hfree, hp]
      exact .empty
    | some b =>
      obtain rfl := obedient.placed hp
      exact hstripped b ((hheld b).2 hp)

/-- Where there is nothing to do, a pass only lists. -/
theorem Course.only_lists {listing : Except ApiError (List Binding)} {record : CallRecord}
    {events : List Event} {result : Except Failure Unit}
    (course : Course reach group listing record events result)
    (h : ∀ bindings, listing = .ok bindings → chores reach group bindings = []) :
    ∀ call ∈ record, call.1 = .list reach := by
  cases course with
  | unlisted => exact List.forall_mem_singleton.2 rfl
  | listed rest =>
    rw [h _ rfl] at rest
    cases rest with
    | done => exact List.forall_mem_singleton.2 rfl
    | stopped _ _ _ _ split =>
      exact absurd split.symm (List.append_ne_nil_of_right_ne_nil _ (List.cons_ne_nil _ _))

/-- And there is nothing to do where nobody names the group. -/
theorem calls_of_unnamed (obedient : Obedient held)
    (h : ∀ p c, held s reach p = some c → ¬c.Names group) :
    ∀ call ∈ calls reach group s, call.1 = .list reach := by
  refine (run_course reach group s).only_lists fun bindings hlist => ?_
  obtain ⟨-, -, hheld⟩ := obedient.listed (Prod.ext hlist rfl)
  rw [chores, List.filterMap_eq_nil_iff]
  intro b hb
  rw [chore?, if_neg (h _ b ((hheld b).1 hb))]

/-! ## Both passes -/

theorem runAll_stripped (obedient : Obedient held) (h : (runAll group s).result = .ok ())
    (reach : Reach) (p : String × String) :
    Stripped reach group (held s reach p) (held (runAll group s).cluster reach p) := by
  rw [runAll_eq] at h ⊢
  cases hfirst : (run .cluster group s).result with
  | error failure =>
    rw [hfirst] at h
    cases hfirst.symm.trans h
  | ok =>
    rw [hfirst] at h
    have hsecond : (run .namespaced group (run .cluster group s).cluster).result = .ok () := h
    obtain ⟨hstripped, hframe⟩ := run_stripped obedient hfirst
    obtain ⟨hstripped', hframe'⟩ := run_stripped obedient hsecond
    cases reach with
    | cluster => exact (congrFun (hframe' .cluster nofun) p) ▸ hstripped p
    | namespaced => exact (congrFun (hframe .namespaced nofun) p) ▸ hstripped' p

theorem allCalls_of_unnamed (obedient : Obedient held)
    (h : ∀ reach p c, held s reach p = some c → ¬c.Names group) :
    ∀ call ∈ allCalls group s, ∃ reach, call.1 = .list reach := by
  rw [allCalls_eq]
  have hlists : ∀ call ∈ calls .cluster group s, ∃ reach, call.1 = .list reach := fun call hcall =>
    ⟨_, calls_of_unnamed obedient (h .cluster) call hcall⟩
  cases hfirst : (run .cluster group s).result with
  | error failure => exact hlists
  | ok =>
    obtain ⟨-, hframe⟩ := run_stripped obedient hfirst
    have hunnamed : ∀ p c, held (run .cluster group s).cluster .namespaced p = some c →
        ¬c.Names group := hframe .namespaced nofun ▸ h .namespaced
    exact List.forall_mem_append.2
      ⟨hlists, fun call hcall => ⟨_, calls_of_unnamed obedient hunnamed call hcall⟩⟩

/-- **The cleanup of a group is exact.** Watched or not, a pass makes its
requests in the order of the bindings listed, one for each that names the
group, up to the first that fails; it tells an event for each that was done,
and ends well just if none failed. The second pass is made only if the first
ended well, and so does the command. On a cluster that does what it accepts,
passes that end well have taken out the group and nothing else, and the next
ones only list. -/
theorem group_cleanup_is_exact (group : String) (s : σ) :
    (∀ reach,
      run reach group (Watched.of s) = (run reach group s).watched (calls reach group s) ∧
      Course reach group (Access.listBindings reach s).1 (calls reach group s)
        (run reach group s).events (run reach group s).result ∧
      ((run reach group s).result = .ok () ↔ ∀ call ∈ calls reach group s, call.2 = none)) ∧
    (runAll group (Watched.of s) = (runAll group s).watched (allCalls group s) ∧
      allCalls group s =
        match (run .cluster group s).result with
        | .error _ => calls .cluster group s
        | .ok () =>
          calls .cluster group s ++ calls .namespaced group (run .cluster group s).cluster) ∧
    (∀ form (around : Command.Surroundings), ∃ printed,
      Command.execute form around (.cleanupGroup group) =
        some (printed, (runAll group around.server).cluster) ∧
      (printed.exit = 0 ↔ ∀ call ∈ allCalls group around.server, call.2 = none)) ∧
    ∀ held : σ → Holdings, Obedient held →
      (∀ reach, (run reach group s).result = .ok () →
        Cleansed group (held s reach) (held (run reach group s).cluster reach) ∧
        (∀ other ≠ reach, held (run reach group s).cluster other = held s other) ∧
        ∀ call ∈ calls reach group (run reach group s).cluster, call.1 = .list reach) ∧
      ((runAll group s).result = .ok () →
        (∀ reach, Cleansed group (held s reach) (held (runAll group s).cluster reach)) ∧
        ∀ call ∈ allCalls group (runAll group s).cluster, ∃ reach, call.1 = .list reach) := by
  refine ⟨fun reach => ⟨run_watched reach group s [], run_course reach group s,
    (run_course reach group s).ok_iff⟩, ⟨?_, allCalls_eq group s⟩, fun form around => ?_,
    fun held obedient => ⟨fun reach h => ?_, fun h => ?_⟩⟩
  · rw [allCalls_eq]
    exact runAll_watched group s
  · refine ⟨_, congrArg some (Prod.ext rfl (Command.ofPass_snd _)), ?_⟩
    exact (Command.ofPass_exit _).trans (runAll_ok_iff group around.server)
  · obtain ⟨hstripped, hframe⟩ := run_stripped obedient h
    have cleansed := Cleansed.of_stripped hstripped
    exact ⟨cleansed, hframe, calls_of_unnamed obedient fun p c => cleansed.unnamed⟩
  · have cleansed (reach : Reach) := Cleansed.of_stripped (runAll_stripped obedient h reach)
    exact ⟨cleansed, allCalls_of_unnamed obedient fun reach p c => (cleansed reach).unnamed⟩

namespace Office

/-- A binding that grants administration. -/
def binding (ns name : String) (subjects : Option (List Subject)) : Binding :=
  ⟨.object [("name", .string name), ("namespace", .string ns)],
    ⟨accessGroup, "ClusterRole", "admin"⟩, subjects⟩

/-- A subject outside namespaces. -/
def subject (kind name : String) : Subject := ⟨some accessGroup, kind, name, none⟩

/-- The group among users, one of whom has its name. -/
def mixed : Binding :=
  binding "" "mixed"
    (some [subject "User" "ops", subject "Group" "ops", subject "User" "ann"])

/-- The group alone, twice over and once, among others, and not at all. -/
def bindings : Reach → List Binding
  | .cluster =>
    [binding "" "alone" (some [subject "Group" "ops", subject "Group" "ops"]), mixed,
     binding "" "bare" none]
  | .namespaced =>
    [binding "x" "alone" (some [subject "Group" "ops"]),
     binding "y" "alone" (some [subject "Group" "dev"])]

/-- The registry of these bindings. -/
def registry : Registry where
  bindings := bindings
  distinct reach := by cases reach <;> decide

end Office

/-- Of these bindings those that were the group's alone go, the user of the
same name and the binding without subjects stay, and then there is nothing
left to do. -/
theorem group_cleanup_is_exact_registry :
    (runAll "ops" Office.registry).result = .ok () ∧
      (∀ reach p c, (runAll "ops" Office.registry).cluster.held reach p = some c → ¬c.Names "ops") ∧
      (∃ c, (runAll "ops" Office.registry).cluster.held .cluster ("", "mixed") = some c ∧
        Office.subject "User" "ops" ∈ c.members) ∧
      (runAll "ops" Office.registry).cluster.held .cluster ("", "bare") =
        some (Office.binding "" "bare" none) ∧
      ∀ call ∈ allCalls "ops" (runAll "ops" Office.registry).cluster,
        ∃ reach, call.1 = .list reach := by
  have hok : (runAll "ops" Office.registry).result = .ok () := rfl
  obtain ⟨cleansed, hlists⟩ :=
    ((group_cleanup_is_exact "ops" Office.registry).2.2.2 Registry.held Registry.obedient).2 hok
  have hmixed : Office.registry.held .cluster ("", "mixed") = some Office.mixed := rfl
  obtain ⟨c, hc, -, hmem⟩ :=
    (cleansed .cluster).granted hmixed (Office.subject "User" "ops") (by decide)
  exact ⟨hok, fun reach _ _ => (cleansed reach).unnamed, ⟨c, hc, hmem⟩,
    (cleansed .cluster).untouched rfl (by decide), hlists⟩

end GroupCleanup

end ClusterFleet
