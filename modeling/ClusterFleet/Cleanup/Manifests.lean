import ClusterFleet.Cleanup.Access

/-!
# Cleanup — objects named by manifests

Deletes the object that each of several manifests names. An object that is gone already needs
nothing. No failure keeps the pass from the manifests after it: all failures are told together in
the end.
-/

namespace ClusterFleet

/-- Where manifests come from: the target that a file names, or why it names none. -/
abbrev ManifestSource := String → Except Failure Target

namespace ManifestCleanup

/-- The event that a target was deleted. -/
def deletedEvent (t : Target) : Event :=
  ⟨"ManagedCluster" ++ t.kind.name ++ "Deleted", "Deleted " ++ t.display, false⟩

variable {σ : Type} [Access σ]

/-- Deletes the object that a file names, and says what there is to tell. -/
def deleteOne (source : ManifestSource) (file : String) (s : σ) :
    Except Failure (Option Event) × σ :=
  match source file with
  | .error failure => (.error (failure.context ("manifest " ++ file)), s)
  | .ok target => match Access.deleteTarget target s with
    | (.ok (), s) => (.ok (some (deletedEvent target)), s)
    | (.error e, s) =>
      if e.isNotFound then (.ok none, s)
      else (.error (e.during ("deleting " ++ target.display)), s)

/-- Deletes the objects that files name: the failures and the events, both in the order of the
files. -/
def deleteAll (source : ManifestSource) : List String → σ → List Failure × List Event × σ
  | [], s => ([], [], s)
  | file :: rest, s =>
    let (outcome, s) := deleteOne source file s
    let (failures, events, s) := deleteAll source rest s
    match outcome with
    | .error failure => (failure :: failures, events, s)
    | .ok told => (failures, told.toList ++ events, s)

/-- Deletes the objects that files name. -/
def run (source : ManifestSource) (files : List String) (s : σ) : Pass σ :=
  let (failures, events, s) := deleteAll source files s
  match Failure.aggregate failures with
  | none => ⟨.ok (), events, s⟩
  | some failure => ⟨.error failure, events, s⟩

end ManifestCleanup

end ClusterFleet
