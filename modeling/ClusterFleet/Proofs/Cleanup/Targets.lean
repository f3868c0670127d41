import ClusterFleet.Cleanup.OnServer
import ClusterFleet.Proofs.Api.Sent

/-!
# Cleanup — targets in words and in paths

A target is spelled in three ways: by the type that its manifest gives
(`TargetKind.IsType`), by what it is called in messages (`Target.Called`),
and by the path of the object on a server (`Target.path`). They are spelled
out here, and the program spells them so.
-/

namespace ClusterFleet

/-! ## Types -/

namespace TargetKind

/-- Objects of the kind live in namespaces. -/
def IsPlaced (k : TargetKind) : Prop := k = .role ∨ k = .roleBinding

instance (k : TargetKind) : Decidable k.IsPlaced := inferInstanceAs (Decidable (_ ∨ _))

theorem isNamespaced_iff {k : TargetKind} : k.isNamespaced = true ↔ k.IsPlaced := by
  cases k <;> decide

/-- **The types of manifests**: group and version, kind, and what they stand
for. -/
inductive IsType : String → String → TargetKind → Prop
  | wholeNamespace : IsType "v1" "Namespace" .wholeNamespace
  | role : IsType "rbac.authorization.k8s.io/v1" "Role" .role
  | roleBinding : IsType "rbac.authorization.k8s.io/v1" "RoleBinding" .roleBinding
  | clusterRole : IsType "rbac.authorization.k8s.io/v1" "ClusterRole" .clusterRole
  | clusterRoleBinding :
      IsType "rbac.authorization.k8s.io/v1" "ClusterRoleBinding" .clusterRoleBinding

variable {version kindName : String} {kind : TargetKind}

theorem isType_self (k : TargetKind) : IsType k.apiVersion k.name k := by
  cases k with
  | wholeNamespace => exact .wholeNamespace
  | role => exact .role
  | roleBinding => exact .roleBinding
  | clusterRole => exact .clusterRole
  | clusterRoleBinding => exact .clusterRoleBinding

/-- **A kind is found** by its type, and there are no other types. -/
theorem ofType?_eq_some_iff :
    ofType? version kindName = some kind ↔ IsType version kindName kind := by
  constructor
  · intro h
    have hfound := List.find?_some h
    rw [Bool.and_eq_true, decide_eq_true_eq, decide_eq_true_eq] at hfound
    rw [← hfound.1, ← hfound.2]
    exact isType_self kind
  · intro h
    cases h <;> decide

end TargetKind

namespace Target

/-! ## Words -/

/-- **What a target is called**: the word for its kind, and its name, or its
namespace and name. -/
inductive Called : Target → String → Prop
  | everywhere {version kindName name : String} {kind : TargetKind}
      (type : TargetKind.IsType version kindName kind) :
      Called ⟨kind, none, name⟩ (kindName ++ " " ++ name)
  | within {version kindName ns name : String} {kind : TargetKind}
      (type : TargetKind.IsType version kindName kind) :
      Called ⟨kind, some ns, name⟩ (kindName ++ " " ++ ns ++ "/" ++ name)

theorem called_display (t : Target) : t.Called t.display :=
  match t with
  | ⟨kind, none, _⟩ => .everywhere (TargetKind.isType_self kind)
  | ⟨kind, some _, _⟩ => .within (TargetKind.isType_self kind)

/-! ## Paths -/

/-- **A target is addressed**: it has a name, and a namespace just if objects
of its kind live in one. -/
structure Addressed (t : Target) : Prop where
  named : t.name ≠ ""
  within : t.kind.IsPlaced → ∃ ns, t.ns = some ns ∧ ns ≠ ""
  everywhere : ¬t.kind.IsPlaced → t.ns = none

/-- The segments of the path of all namespaces with roles and bindings in
them. -/
def spaces : List String := ["", "apis", "rbac.authorization.k8s.io", "v1", "namespaces"]

/-- **The collection of a target**, by the segments of its path. -/
def collection (t : Target) : List String :=
  match t.kind with
  | .wholeNamespace => ["", "api", "v1", "namespaces"]
  | .role => spaces ++ [t.ns.getD "", "roles"]
  | .roleBinding => spaces ++ [t.ns.getD "", "rolebindings"]
  | .clusterRole => ["", "apis", "rbac.authorization.k8s.io", "v1", "clusterroles"]
  | .clusterRoleBinding => ["", "apis", "rbac.authorization.k8s.io", "v1", "clusterrolebindings"]

/-- **The path of a target** on a server. -/
def path (t : Target) : String := "/".intercalate (t.collection ++ [t.name])

/-- Nothing in the name of a target or in its namespace ends a segment of a
path. -/
structure IsPlain (t : Target) : Prop where
  name : Plain t.name
  within : ∀ ns, t.ns = some ns → Plain ns

variable {t : Target}

/-- The program makes the path of a target from the parts of its collection. -/
theorem objectPath_eq (t : Target) :
    (OnServer.collectionOf t.kind).objectPath (OnServer.pathSpace t.kind (t.ns.getD "")) t.name =
      t.path := by
  obtain ⟨kind, ns, name⟩ := t
  rw [← String.toList_inj]
  cases kind <;>
    simp [path, collection, spaces, OnServer.collectionOf, OnServer.pathSpace,
      TargetKind.isNamespaced, Collection.objectPath, Collection.path, accessGroup]

/-- A target that lives in a namespace has a collection there. -/
theorem Addressed.exists_collection_eq (addressed : t.Addressed) (placed : t.kind.IsPlaced) :
    ∃ ns plural, t.ns = some ns ∧ ns ≠ "" ∧ Plain plural ∧
      t.collection = spaces ++ [ns, plural] := by
  obtain ⟨ns, hns, hne⟩ := addressed.within placed
  rw [collection, hns]
  obtain hkind | hkind := placed
  · exact ⟨ns, "roles", rfl, hne, by decide, by rw [hkind, Option.getD_some]⟩
  · exact ⟨ns, "rolebindings", rfl, hne, by decide, by rw [hkind, Option.getD_some]⟩

/-- The collection of a target is plain just if its namespace is. -/
theorem Addressed.plain_collection_iff (addressed : t.Addressed) :
    (∀ s ∈ t.collection, Plain s) ↔ ∀ ns, t.ns = some ns → Plain ns := by
  by_cases placed : t.kind.IsPlaced
  · obtain ⟨ns, plural, hns, -, hplural, hcollection⟩ := addressed.exists_collection_eq placed
    have hspaces : ∀ s ∈ spaces, Plain s := by decide
    rw [hcollection, hns, List.forall_mem_append, List.forall_mem_cons, List.forall_mem_singleton,
      and_iff_right hspaces, and_iff_left hplural]
    exact ⟨fun h _ heq => Option.some.inj heq ▸ h, fun h => h ns rfl⟩
  · rw [addressed.everywhere placed]
    refine iff_of_true ?_ nofun
    cases hkind : t.kind with
    | role => exact absurd (.inl hkind) placed
    | roleBinding => exact absurd (.inr hkind) placed
    | wholeNamespace | clusterRole | clusterRoleBinding =>
      rw [collection, hkind]
      dsimp only
      decide

end Target

end ClusterFleet
