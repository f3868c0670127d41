/-!
# Cleanup — manifest templates

A manifest template has one placeholder, which stands for the name of the managed cluster.
-/

namespace ClusterFleet

namespace Template

/-- The placeholder, with braces on both sides and a blank inside each pair. -/
def placeholder : List Char :=
  "\x7b\x7b .ManagedClusterName \x7d\x7d".toList

/-- Replaces every placeholder, from left to right. A character inside a placeholder that was
replaced cannot begin another. -/
def replaceAll (name : List Char) : List Char → List Char
  | [] => []
  | c :: cs =>
    if placeholder.isPrefixOf (c :: cs) then
      name ++ replaceAll name ((c :: cs).drop placeholder.length)
    else c :: replaceAll name cs
termination_by cs => cs.length
decreasing_by
  · have : 0 < placeholder.length := by decide
    simp only [List.length_drop, List.length_cons]
    omega
  · simp

/-- The manifest of a template for one cluster. -/
def render (clusterName template : String) : String :=
  String.ofList (replaceAll clusterName.toList template.toList)

end Template

end ClusterFleet
