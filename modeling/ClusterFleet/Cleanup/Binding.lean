import ClusterFleet.Api.Schema
import ClusterFleet.Text.Quoted

/-!
# Cleanup — role bindings

A binding grants a role to subjects: users, groups and service accounts, either everywhere or
within one namespace. Taking a group out of a binding leaves the other subjects in their order,
and a binding that would be left without any is to be deleted.
-/

namespace ClusterFleet

/-- Who is granted something. -/
structure Subject where
  /-- The API group of the kind, if it is given. -/
  apiGroup : Option String
  /-- User, group or service account. -/
  kind : String
  /-- The name. -/
  name : String
  /-- The namespace of a service account. -/
  ns : Option String
  deriving DecidableEq, Repr

/-- Which role is granted. -/
structure RoleRef where
  /-- The API group of the role. -/
  apiGroup : String
  /-- The kind of the role. -/
  kind : String
  /-- The name of the role. -/
  name : String
  deriving DecidableEq, Repr

/-- Where a binding grants its role. -/
inductive Reach where
  /-- Everywhere. -/
  | cluster
  /-- Within the namespace of the binding. -/
  | namespaced
  deriving DecidableEq, Repr

/-- A binding. -/
structure Binding where
  /-- The metadata, in normal form. -/
  metadata : Json
  /-- The role. -/
  role : RoleRef
  /-- The subjects, if they are given. -/
  subjects : Option (List Subject)

/-! ## Forms -/

/-- A text field of an object; empty where there is none. -/
def Json.textField (name : String) (v : Json) : String :=
  ((v.field? name).bind Json.text?).getD ""

namespace Subject

/-- The shape of a subject. -/
def shape : Shape :=
  Shape.recordWithTexts "Subject" ["kind", "name"]
    (Shape.optionals [("apiGroup", Shape.text), ("namespace", Shape.text)])

/-- The subject that a value in normal form stands for. -/
def ofNormal (v : Json) : Subject :=
  ⟨(v.field? "apiGroup").bind Json.text?, v.textField "kind", v.textField "name",
    (v.field? "namespace").bind Json.text?⟩

/-- Reads a subject. -/
def read (v : Json) : Except Form.Fault Subject :=
  (shape v).map ofNormal

/-- A subject as JSON. -/
def write (s : Subject) : Json :=
  .object
    ((s.apiGroup.map fun g => ("apiGroup", Json.string g)).toList ++
     [("kind", .string s.kind), ("name", .string s.name)] ++
     (s.ns.map fun n => ("namespace", Json.string n)).toList)

end Subject

namespace RoleRef

/-- The shape of a reference to a role. -/
def shape : Shape :=
  Shape.recordWithTexts "RoleRef" ["apiGroup", "kind", "name"] []

/-- The reference that a value in normal form stands for. -/
def ofNormal (v : Json) : RoleRef :=
  ⟨v.textField "apiGroup", v.textField "kind", v.textField "name"⟩

/-- A reference to a role as JSON. -/
def write (r : RoleRef) : Json :=
  .object [("apiGroup", .string r.apiGroup), ("kind", .string r.kind), ("name", .string r.name)]

end RoleRef

/-- The API group of roles and bindings. -/
def accessGroup : String := "rbac.authorization.k8s.io"

/-- Group and version of roles and bindings. -/
def accessVersion : String := accessGroup ++ "/v1"

/-- The kind of the bindings of a reach. -/
def Reach.kindName : Reach → String
  | .cluster => "ClusterRoleBinding"
  | .namespaced => "RoleBinding"

namespace Binding

/-- The shape of a binding. -/
def shape (reach : Reach) : Shape :=
  Shape.record reach.kindName
    ([("apiVersion", Shape.exactly accessVersion), ("kind", Shape.exactly reach.kindName)] ++
     Shape.optionals
      [("metadata", Schema.objectMeta), ("roleRef", RoleRef.shape),
       ("subjects", Shape.list Subject.shape)])

/-- The binding that a value in normal form stands for. -/
def ofNormal (v : Json) : Binding :=
  ⟨(v.field? "metadata").getD (.object []),
    RoleRef.ofNormal ((v.field? "roleRef").getD .null),
    ((v.field? "subjects").bind Json.items?).map fun items => items.map Subject.ofNormal⟩

/-- Reads a binding. -/
def read (reach : Reach) (v : Json) : Except Form.Fault Binding :=
  (shape reach v).map ofNormal

/-- A binding as JSON. -/
def write (reach : Reach) (b : Binding) : Json :=
  .object
    ([("apiVersion", .string accessVersion), ("kind", .string reach.kindName),
      ("metadata", b.metadata), ("roleRef", b.role.write)] ++
     (b.subjects.map fun s => ("subjects", Json.array (s.map Subject.write))).toList)

/-- The name of a binding; empty where it has none. -/
def name (b : Binding) : String :=
  b.metadata.textField "name"

/-- The namespace of a binding; empty where it has none. -/
def ns (b : Binding) : String :=
  b.metadata.textField "namespace"

/-- The subjects of a binding; none where they are not given. -/
def members (b : Binding) : List Subject :=
  b.subjects.getD []

end Binding

/-! ## Taking a group out -/

/-- Whether a subject is the group of a name. -/
def Subject.isGroup (group : String) (s : Subject) : Bool :=
  s.kind = "Group" && s.name = group

/-- What taking a group out of a binding comes to. -/
inductive SubjectsChange where
  /-- The group was not there. -/
  | unchanged
  /-- Nobody else was there. -/
  | delete
  /-- These subjects are left. -/
  | update (kept : List Subject)
  deriving DecidableEq, Repr

/-- Takes a group out of subjects. Subjects that were none to begin with stay so. -/
def stripGroup (group : String) (subjects : List Subject) : SubjectsChange :=
  let kept := subjects.filter fun s => !s.isGroup group
  if kept.length = subjects.length then .unchanged
  else if kept.isEmpty then .delete
  else .update kept

end ClusterFleet
