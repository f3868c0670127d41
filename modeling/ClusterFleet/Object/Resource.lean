import ClusterFleet.Object.Condition
import ClusterFleet.Object.Key
import ClusterFleet.Object.Kind

/-!
# Objects — resources

The part of an object that the hub reads and writes: its metadata and the conditions of its
status. The three kinds have the same shape; which kind a resource is of is said where it is
stored.
-/

namespace ClusterFleet

/-- The metadata of an object. -/
structure Metadata where
  /-- The name. -/
  name : String
  /-- The namespace, if any. -/
  ns : Option String
  /-- The identity that the authority gave the object. -/
  uid : Option String
  /-- The version that the authority gave this state of the object. -/
  version : Option String
  /-- The labels, in ascending order of their names. -/
  labels : List (String × String)
  /-- When the object was marked for deletion, if it was. -/
  deletedAt : Option Instant
  deriving DecidableEq

/-- An object: metadata and the conditions of its status. -/
structure Resource where
  /-- The metadata. -/
  metadata : Metadata
  /-- The conditions. -/
  conditions : List Condition
  deriving DecidableEq

namespace Resource

/-- The key of an object. -/
def key (r : Resource) : Key := ⟨r.metadata.ns, r.metadata.name⟩

/-- The name of an object. -/
def name (r : Resource) : String := r.metadata.name

/-- Whether an object is marked for deletion. -/
def isDeleting (r : Resource) : Bool := r.metadata.deletedAt.isSome

/-- The label on a member that names the set it belongs to. -/
def setLabel : String := "cluster.open-cluster-management.io/clusterset"

/-- The value of a label. -/
def label? (r : Resource) (name : String) : Option String :=
  (r.metadata.labels.find? fun p => p.1 = name).map (·.2)

/-- The set that a member belongs to, if its label names one. -/
def clusterSet? (member : Resource) : Option String :=
  member.label? setLabel

/-- The set of a member is what the first label of that name says. -/
theorem clusterSet?_eq_lookup (member : Resource) : member.clusterSet? =
    member.metadata.labels.lookup "cluster.open-cluster-management.io/clusterset" := by
  rw [clusterSet?, label?, ← setLabel]
  induction member.metadata.labels with
  | nil => rfl
  | cons p rest ih =>
    rw [List.find?_cons, List.lookup_cons]
    by_cases h : p.1 = setLabel
    · simp [h]
    · have hne : (setLabel == p.1) = false := beq_false_of_ne (Ne.symm h)
      simp [h, hne, ih]

/-- Whether a set selects a member: the member's label is the set's name, letter for letter. -/
def selects (set member : Resource) : Bool :=
  member.clusterSet? = some set.name

/-- A set selects the members that are labelled with its name. -/
theorem selects_iff {set member : Resource} : set.selects member = true ↔
    member.metadata.labels.lookup "cluster.open-cluster-management.io/clusterset" =
      some set.metadata.name := by
  rw [selects, decide_eq_true_eq, clusterSet?_eq_lookup, name]

end Resource

end ClusterFleet
