import ClusterFleet.Cleanup.Binding
import ClusterFleet.Failure

/-!
# Cleanup — what manifests name

A manifest names one object, of one of five kinds, that cleanup can delete. An object of a kind
that lives in namespaces is named with its namespace; for the others a namespace counts for
nothing.
-/

namespace ClusterFleet

/-- The kinds of objects that cleanup deletes by their manifests. -/
inductive TargetKind where
  /-- A namespace. -/
  | wholeNamespace
  /-- A role within a namespace. -/
  | role
  /-- A binding within a namespace. -/
  | roleBinding
  /-- A role everywhere. -/
  | clusterRole
  /-- A binding everywhere. -/
  | clusterRoleBinding
  deriving DecidableEq, Repr

namespace TargetKind

/-- The name of a kind. -/
def name : TargetKind → String
  | .wholeNamespace => "Namespace"
  | .role => "Role"
  | .roleBinding => "RoleBinding"
  | .clusterRole => "ClusterRole"
  | .clusterRoleBinding => "ClusterRoleBinding"

/-- Group and version of a kind, as manifests give it. -/
def apiVersion : TargetKind → String
  | .wholeNamespace => "v1"
  | _ => accessVersion

/-- Whether objects of a kind live in namespaces. -/
def isNamespaced : TargetKind → Bool
  | .role | .roleBinding => true
  | _ => false

/-- All kinds. -/
def all : List TargetKind :=
  [.wholeNamespace, .role, .roleBinding, .clusterRole, .clusterRoleBinding]

/-- The kind of a type that a manifest gives. -/
def ofType? (apiVersion kind : String) : Option TargetKind :=
  all.find? fun k => k.apiVersion = apiVersion && k.name = kind

end TargetKind

/-- An object that a manifest names. -/
structure Target where
  /-- The kind. -/
  kind : TargetKind
  /-- The namespace, if objects of the kind live in one. -/
  ns : Option String
  /-- The name. -/
  name : String
  deriving DecidableEq, Repr

/-- The text of a target: its kind, and its name or namespace and name. -/
def Target.display (t : Target) : String :=
  match t.ns with
  | some ns => t.kind.name ++ " " ++ ns ++ "/" ++ t.name
  | none => t.kind.name ++ " " ++ t.name

/-- What a manifest says of the object it describes; whatever it does not say is missing. -/
structure Manifest where
  /-- Group and version. -/
  apiVersion : Option String
  /-- The kind. -/
  kind : Option String
  /-- The name. -/
  name : Option String
  /-- The namespace. -/
  ns : Option String
  deriving DecidableEq, Repr

namespace Manifest

/-- What must be there, or a failure that says that it is not. An empty text is not there. -/
def need (text : Option String) (otherwise : String) : Except Failure String :=
  match text.filter (· ≠ "") with
  | some s => .ok s
  | none => .error (.plain otherwise)

/-- The namespace of a target of a kind, which must be there for the kinds that live in one. -/
def place (kind : TargetKind) (name : String) (ns : Option String) :
    Except Failure (Option String) :=
  if kind.isNamespaced then
    (need ns (kind.name ++ " " ++ name ++ " missing metadata.namespace")).map some
  else .ok none

/-- The object that a manifest names. Type, kind, name and namespace are looked at in this order. -/
def target (m : Manifest) : Except Failure Target :=
  match m.apiVersion, m.kind with
  | none, _ => .error (.plain "manifest missing apiVersion")
  | _, none => .error (.plain "manifest missing kind")
  | some apiVersion, some kindName =>
    match TargetKind.ofType? apiVersion kindName with
    | none => .error (.plain ("unhandled type " ++ apiVersion ++ "/" ++ kindName))
    | some kind => do
      let name ← need m.name "manifest missing metadata.name"
      let ns ← place kind name m.ns
      return ⟨kind, ns, name⟩

end Manifest

end ClusterFleet
