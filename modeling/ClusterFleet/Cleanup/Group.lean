import ClusterFleet.Cleanup.Access

/-!
# Cleanup — a group and its bindings

Takes a group out of every binding of a reach. Bindings that do not name the group are left alone,
one that names nobody else is deleted, and every other one is replaced. The first error ends the
pass.
-/

namespace ClusterFleet

namespace GroupCleanup

/-- The collection of a reach, as messages name it. -/
def collectionName : Reach → String
  | .cluster => "clusterrolebindings"
  | .namespaced => "rolebindings"

/-- One binding of a reach, as messages name it. -/
def bindingName (reach : Reach) (b : Binding) : String :=
  match reach with
  | .cluster => "clusterrolebinding " ++ b.name
  | .namespaced => "rolebinding " ++ b.ns ++ "/" ++ b.name

/-- One binding of a reach, as events name it. -/
def quotedName (reach : Reach) (b : Binding) : String :=
  match reach with
  | .cluster => Text.quoted b.name
  | .namespaced => Text.quoted b.ns ++ "/" ++ Text.quoted b.name

/-- The event that a binding was deleted. -/
def deletedEvent (reach : Reach) (b : Binding) : Event :=
  ⟨reach.kindName ++ "Deleted", "Deleted " ++ reach.kindName ++ " " ++ quotedName reach b, false⟩

/-- The event that a binding was replaced. -/
def updatedEvent (reach : Reach) (b : Binding) : Event :=
  ⟨reach.kindName ++ "Updated", "Updated " ++ reach.kindName ++ " " ++ quotedName reach b, false⟩

variable {σ : Type} [Access σ]

/-- Takes a group out of one binding, and says what there is to tell. -/
def strip (reach : Reach) (group : String) (b : Binding) (s : σ) :
    Except Failure (Option Event) × σ :=
  match stripGroup group b.members with
  | .unchanged => (.ok none, s)
  | .delete => match Access.deleteBinding reach b.ns b.name s with
    | (.ok (), s) => (.ok (some (deletedEvent reach b)), s)
    | (.error e, s) => (.error (e.during ("deleting " ++ bindingName reach b)), s)
  | .update kept => match Access.replaceBinding reach { b with subjects := some kept } s with
    | (.ok (), s) => (.ok (some (updatedEvent reach b)), s)
    | (.error e, s) => (.error (e.during ("updating " ++ bindingName reach b)), s)

/-- Takes a group out of the given bindings, one after another. -/
def stripAll (reach : Reach) (group : String) : List Binding → σ → Pass σ
  | [], s => ⟨.ok (), [], s⟩
  | b :: rest, s =>
    match strip reach group b s with
    | (.error failure, s) => ⟨.error failure, [], s⟩
    | (.ok told, s) =>
      let pass := stripAll reach group rest s
      { pass with events := told.toList ++ pass.events }

/-- Takes a group out of every binding of a reach. -/
def run (reach : Reach) (group : String) (s : σ) : Pass σ :=
  match Access.listBindings reach s with
  | (.error e, s) => ⟨.error (e.during ("listing " ++ collectionName reach)), [], s⟩
  | (.ok bindings, s) => stripAll reach group bindings s

/-- Takes a group out of every binding: first those that grant everywhere, and if all went well
those within namespaces. -/
def runAll (group : String) (s : σ) : Pass σ :=
  let first := run .cluster group s
  match first.result with
  | .error failure => ⟨.error failure, first.events, first.cluster⟩
  | .ok () =>
    let second := run .namespaced group first.cluster
    { second with events := first.events ++ second.events }

end GroupCleanup

end ClusterFleet
