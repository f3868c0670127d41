import ClusterFleet.Api.Error
import ClusterFleet.Cleanup.Target
import ClusterFleet.Hub.Event

/-!
# Cleanup — access to a cluster

What cleanup asks of a cluster, and the account that a pass of cleanup gives of itself. Whatever
answers these requests is a cluster: an API server, a script of answers, or a model that carries
the requests out.
-/

namespace ClusterFleet

/-- A cluster as cleanup sees it. -/
class Access (σ : Type) where
  /-- Reads all bindings of a reach, in every namespace. -/
  listBindings : Reach → σ → Except ApiError (List Binding) × σ
  /-- Replaces a binding by this one. -/
  replaceBinding : Reach → Binding → σ → Except ApiError Unit × σ
  /-- Deletes the binding of a namespace and name. -/
  deleteBinding : Reach → String → String → σ → Except ApiError Unit × σ
  /-- Deletes an object. -/
  deleteTarget : Target → σ → Except ApiError Unit × σ

/-- The account of a pass. -/
structure Pass (σ : Type) where
  /-- Whether the pass did all it had to do, or else why not. -/
  result : Except Failure Unit
  /-- The events to be told, oldest first. -/
  events : List Event
  /-- The cluster after the pass. -/
  cluster : σ

/-- An error of the server, in the context of what was attempted. -/
def ApiError.during (what : String) (e : ApiError) : Failure :=
  e.failure.context what

end ClusterFleet
