/-!
# Objects — kinds

The three kinds of objects the hub works on, with the coordinates under which an API server holds
them.
-/

namespace ClusterFleet

/-- A kind of object. -/
inductive Kind where
  /-- A managed cluster. -/
  | member
  /-- A set of managed clusters. -/
  | set
  /-- An add-on installed on a managed cluster; the only namespaced kind. -/
  | addOn
  deriving DecidableEq, Repr, Inhabited

namespace Kind

/-- The API group of clusters and cluster sets. -/
def clusterGroup : String := "cluster.open-cluster-management.io"

/-- The API group of add-ons. -/
def addOnGroup : String := "addon.open-cluster-management.io"

/-- The name of the kind in objects and messages. -/
def name : Kind → String
  | .member => "ManagedCluster"
  | .set => "ManagedClusterSet"
  | .addOn => "ManagedClusterAddOn"

/-- The API group. -/
def group : Kind → String
  | .member => clusterGroup
  | .set => clusterGroup
  | .addOn => addOnGroup

/-- The API version within the group. -/
def version : Kind → String
  | .member => "v1"
  | .set => "v1alpha1"
  | .addOn => "v1alpha1"

/-- The name of the collection. -/
def plural : Kind → String
  | .member => "managedclusters"
  | .set => "managedclustersets"
  | .addOn => "managedclusteraddons"

/-- Whether objects of the kind live in namespaces. -/
def isNamespaced : Kind → Bool
  | .addOn => true
  | _ => false

/-- Group and version, as objects carry them. -/
def apiVersion (k : Kind) : String :=
  k.group ++ "/" ++ k.version

end Kind

end ClusterFleet
