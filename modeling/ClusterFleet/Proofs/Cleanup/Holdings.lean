import ClusterFleet.Proofs.Cleanup.Chores
import Mathlib.Data.List.Nodup

/-!
# Cleanup — clusters that do what they accept

A binding stands at a place: under its name, and under its namespace if it
grants there. A cluster is `Obedient` if it lists the bindings that it holds,
and if a change that it accepts is made at the place that it names and
nowhere else. What it does with a change that it does not accept is left
open, and so is the metadata that it gives to a binding.

A `Registry` of bindings is such a cluster (`Registry.obedient`).
-/

namespace ClusterFleet

/-- The place of a binding of a reach. Those that grant everywhere stand in no
namespace. -/
def Reach.place (reach : Reach) (ns name : String) : String × String :=
  match reach with
  | .cluster => ("", name)
  | .namespaced => (ns, name)

/-- Where a binding stands. -/
def Binding.place (reach : Reach) (b : Binding) : String × String :=
  reach.place b.ns b.name

/-- A binding as it is kept after it was sent: at its place, with its role and
its subjects. -/
structure Binding.KeptAs (reach : Reach) (sent kept : Binding) : Prop where
  place : kept.place reach = sent.place reach
  role : kept.role = sent.role
  subjects : kept.subjects = sent.subjects

/-- The bindings of a cluster, by reach and place. -/
abbrev Holdings : Type := Reach → String × String → Option Binding

/-- Other content at one place. -/
def Holdings.set (held : Holdings) (reach : Reach) (place : String × String)
    (content : Option Binding) : Holdings := fun r p =>
  if r = reach ∧ p = place then content else held r p

namespace Holdings

variable {held : Holdings} {reach r : Reach} {place p : String × String} {content : Option Binding}

theorem set_self : held.set reach place content reach place = content := by
  rw [set, if_pos ⟨rfl, rfl⟩]

theorem set_of_ne (h : r = reach → p ≠ place) : held.set reach place content r p = held r p := by
  rw [set, if_neg fun heq => h heq.1 heq.2]

/-- What a place holds it may be given. -/
theorem set_same (h : held reach place = content) : held.set reach place content = held := by
  funext r p
  rw [set]
  split
  · rename_i heq
    rw [heq.1, heq.2, h]
  · rfl

end Holdings

/-- A cluster that does what it accepts. -/
structure Obedient {σ : Type} [Access σ] (held : σ → Holdings) : Prop where
  /-- A binding is held at its place. -/
  placed : ∀ {s reach p b}, held s reach p = some b → b.place reach = p
  /-- What is listed is what is held, and each place once. -/
  listed : ∀ {reach s bindings s'}, Access.listBindings reach s = (.ok bindings, s') →
    held s' = held s ∧ (bindings.map (Binding.place reach)).Nodup ∧
      ∀ b, b ∈ bindings ↔ held s reach (b.place reach) = some b
  /-- A binding that is accepted takes the place of the one that was there. -/
  replaced : ∀ {reach b s s'}, Access.replaceBinding reach b s = (.ok (), s') →
    ∃ kept, b.KeptAs reach kept ∧ held s' = (held s).set reach (b.place reach) (some kept)
  /-- After a deletion that is accepted nothing is there. -/
  deleted : ∀ {reach ns name s s'}, Access.deleteBinding reach ns name s = (.ok (), s') →
    held s' = (held s).set reach (reach.place ns name) none

/-! ## A registry -/

/-- Bindings, one at each place. -/
structure Registry where
  /-- The bindings of a reach. -/
  bindings : Reach → List Binding
  /-- No two of them stand at one place. -/
  distinct : ∀ reach, ((bindings reach).map (Binding.place reach)).Nodup

namespace Registry

variable {reach : Reach} {p : String × String} {b : Binding}

/-- The binding at a place. -/
def held (r : Registry) : Holdings := fun reach p =>
  (r.bindings reach).find? fun b => b.place reach = p

/-- The registry with other bindings of one reach. -/
def update (r : Registry) (reach : Reach) (bindings : List Binding)
    (distinct : (bindings.map (Binding.place reach)).Nodup) : Registry where
  bindings other := if other = reach then bindings else r.bindings other
  distinct other := by
    split
    · rename_i heq
      exact heq ▸ distinct
    · exact r.distinct other

/-- Puts a binding in the place of the one that stands there. -/
def put (reach : Reach) (b : Binding) (bindings : List Binding) : List Binding :=
  bindings.map fun c => if c.place reach = b.place reach then b else c

theorem place_put (reach : Reach) (b : Binding) (bindings : List Binding) :
    (put reach b bindings).map (Binding.place reach) = bindings.map (Binding.place reach) := by
  rw [put, List.map_map]
  refine List.map_congr_left fun c _ => ?_
  dsimp only [Function.comp_apply]
  split
  · rename_i heq
    exact heq.symm
  · rfl

/-- Leaves out the binding at a place. -/
def drop (reach : Reach) (place : String × String) (bindings : List Binding) : List Binding :=
  bindings.filter fun c => c.place reach ≠ place

theorem distinct_drop {bindings : List Binding} (place : String × String)
    (h : (bindings.map (Binding.place reach)).Nodup) :
    ((drop reach place bindings).map (Binding.place reach)).Nodup :=
  h.sublist (List.filter_sublist.map _)

/-- The error of a request for something that is not there. -/
def notFound : ApiError :=
  .refused ⟨"Failure", "the server could not find the requested resource", "NotFound", 404⟩

/-- Replaces the binding at the place of this one, if there is one. -/
def replace (reach : Reach) (b : Binding) (r : Registry) : Except ApiError Unit × Registry :=
  if (r.held reach (b.place reach)).isSome then
    (.ok (), r.update reach (put reach b (r.bindings reach)) (by
      rw [place_put]
      exact r.distinct reach))
  else (.error notFound, r)

/-- Deletes the binding at a place, if there is one. -/
def delete (reach : Reach) (ns name : String) (r : Registry) : Except ApiError Unit × Registry :=
  if (r.held reach (reach.place ns name)).isSome then
    (.ok (), r.update reach (drop reach (reach.place ns name) (r.bindings reach))
      (distinct_drop _ (r.distinct reach)))
  else (.error notFound, r)

/-- A registry has bindings and no other objects. -/
instance : Access Registry where
  listBindings reach r := (.ok (r.bindings reach), r)
  replaceBinding := replace
  deleteBinding := delete
  deleteTarget t r :=
    match t.kind with
    | .clusterRoleBinding => delete .cluster "" t.name r
    | .roleBinding => delete .namespaced (t.ns.getD "") t.name r
    | _ => (.error notFound, r)

/-- Other bindings of a reach that differ from those held at one place only. -/
theorem held_update {r : Registry} {bindings : List Binding} {place : String × String}
    {content : Option Binding} (distinct : (bindings.map (Binding.place reach)).Nodup)
    (h : ∀ p, (bindings.find? fun b => b.place reach = p) =
      if p = place then content else r.held reach p) :
    (r.update reach bindings distinct).held = r.held.set reach place content := by
  funext other p
  by_cases hreach : other = reach
  · subst hreach
    simp only [held, update, if_true, Holdings.set, true_and]
    exact h p
  · rw [Holdings.set_of_ne fun heq => absurd heq hreach]
    simp only [held, update, if_neg hreach]

theorem find?_put (bindings : List Binding) :
    ((put reach b bindings).find? fun c => c.place reach = p) =
      if p = b.place reach then (bindings.find? fun c => c.place reach = p).map fun _ => b
      else bindings.find? fun c => c.place reach = p := by
  have hsame : ((fun c => decide (c.place reach = p)) ∘
      fun c => if c.place reach = b.place reach then b else c) =
        fun c => decide (c.place reach = p) := by
    funext c
    dsimp only [Function.comp_apply]
    split
    · rename_i heq
      rw [heq]
    · rfl
  rw [put, List.find?_map, hsame]
  cases h : bindings.find? fun c => c.place reach = p with
  | none => rw [Option.map_none, Option.map_none, ite_self]
  | some c =>
    have hplace : c.place reach = p := of_decide_eq_true (List.find?_some h :)
    rw [Option.map_some, hplace]
    split <;> rfl

theorem find?_drop (place : String × String) (bindings : List Binding) :
    ((drop reach place bindings).find? fun c => c.place reach = p) =
      if p = place then none else bindings.find? fun c => c.place reach = p := by
  rw [drop, List.find?_filter]
  split
  · rename_i hp
    rw [List.find?_eq_none]
    intro c _
    simp [hp]
  · rename_i hp
    refine congrArg (fun f => List.find? f bindings) (funext fun c => ?_)
    by_cases hc : c.place reach = p
    · simp [hc, hp]
    · simp [hc]

/-- **A registry does what it accepts.** -/
theorem obedient : Obedient held where
  placed {r reach p b} h := of_decide_eq_true (List.find?_some h :)
  listed {reach r bindings r'} h := by
    cases h
    refine ⟨rfl, r.distinct reach, fun b => ⟨fun hb => ?_, List.mem_of_find?_eq_some⟩⟩
    cases hfound : r.held reach (b.place reach) with
    | none => exact absurd (decide_eq_true rfl) (List.find?_eq_none.1 hfound b hb)
    | some c =>
      have hplace : c.place reach = b.place reach := of_decide_eq_true (List.find?_some hfound :)
      rw [List.inj_on_of_nodup_map (r.distinct reach) (List.mem_of_find?_eq_some hfound) hb hplace]
  replaced {reach b r r'} h := by
    change replace reach b r = _ at h
    rw [replace] at h
    split at h
    · rename_i hthere
      cases h
      refine ⟨b, ⟨rfl, rfl, rfl⟩, held_update _ fun p => ?_⟩
      rw [find?_put]
      split
      · rename_i hp
        obtain ⟨c, hc⟩ := Option.isSome_iff_exists.1 hthere
        exact hp ▸ congrArg (Option.map fun _ => b) hc
      · rfl
    · cases h
  deleted {reach ns name r r'} h := by
    change delete reach ns name r = _ at h
    rw [delete] at h
    split at h
    · cases h
      exact held_update _ fun p => find?_drop _ _
    · cases h

end Registry

end ClusterFleet
