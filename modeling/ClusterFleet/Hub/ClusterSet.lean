import ClusterFleet.Hub.StatusUpdate

/-!
# Hub — reconciling a cluster set

Brings one set up to date: selects its members by their label, points them at the set in the
membership cache, tells who joined and who left, and publishes whether the set is empty.
-/

namespace ClusterFleet

/-- A change that a watch reports. -/
inductive Change where
  /-- The object is there in this state. -/
  | applied (object : Resource)
  /-- The object was there in this state and is gone. -/
  | deleted (object : Resource)
  deriving DecidableEq

/-- The object that a change is about. -/
def Change.object : Change → Resource
  | .applied object => object
  | .deleted object => object

/-- What reconciling a set did. -/
inductive SyncOutcome where
  /-- The set does not exist. -/
  | missing
  /-- The set is marked for deletion and is left alone. -/
  | deleting
  /-- The set has so many members, some of which joined or left, and its status was written or
  was right already. -/
  | reconciled (selected : Nat) (churn : Churn) (updated : Bool)
  deriving DecidableEq, Repr

namespace ClusterSet

open Program

/-- The type of the condition that says whether a set is empty. -/
def emptyType : String := "Empty"

/-- The condition of a set with the given number of members. -/
def emptyCondition (selected : Nat) (now : Instant) : Condition :=
  if selected = 0 then
    ⟨emptyType, .holds, "NoClusterMatched", "No ManagedCluster selected", now⟩
  else
    ⟨emptyType, .fails, "ClustersSelected",
      Decimal.text selected ++ " ManagedClusters selected", now⟩

theorem emptyCondition_zero (now : Instant) : emptyCondition 0 now =
    ⟨"Empty", .holds, "NoClusterMatched", "No ManagedCluster selected", now⟩ := rfl

theorem emptyCondition_pos {selected : Nat} (h : 0 < selected) (now : Instant) :
    emptyCondition selected now = ⟨"Empty", .fails, "ClustersSelected",
      Decimal.text selected ++ " ManagedClusters selected", now⟩ :=
  if_neg (Nat.ne_of_gt h)

/-- Names with commas between them. -/
def commaList (names : List String) : String :=
  ", ".intercalate names

/-- The event that members joined a set. -/
def joinedEvent (set : String) (members : List String) : Event :=
  ⟨"ClusterSetMembersJoined",
    "ManagedClusters " ++ commaList members ++ " joined ManagedClusterSet " ++ set, false⟩

/-- The event that members left a set. -/
def leftEvent (set : String) (members : List String) : Event :=
  ⟨"ClusterSetMembersLeft",
    "ManagedClusters " ++ commaList members ++ " left ManagedClusterSet " ++ set, false⟩

theorem joinedEvent_eq (set : String) (members : List String) : joinedEvent set members =
    ⟨"ClusterSetMembersJoined",
      "ManagedClusters " ++ ", ".intercalate members ++ " joined ManagedClusterSet " ++ set, false⟩ :=
  rfl

theorem leftEvent_eq (set : String) (members : List String) : leftEvent set members =
    ⟨"ClusterSetMembersLeft",
      "ManagedClusters " ++ ", ".intercalate members ++ " left ManagedClusterSet " ++ set, false⟩ :=
  rfl

/-- The events of a rebuild. Members that left are told of only when pruning, since otherwise they
are found again by every rebuild. -/
def churnEvents (set : String) (churn : Churn) (prune : Bool) : List Event :=
  (if churn.joined.isEmpty then [] else [joinedEvent set churn.joined]) ++
  (if prune && !churn.left.isEmpty then [leftEvent set churn.left] else [])

/-- The names of the members that a set selects. -/
def selection (set : Resource) (members : List Resource) : List String :=
  (members.filter set.selects).map Resource.name

/-- Brings a set that was read up to date. -/
def refresh (prune : Bool) (policy : RetryPolicy) (deadline : Option Moment) (key : Key)
    (set : Resource) (members : List Resource) : Program (Except StoreError SyncOutcome) :=
  let selected := selection set members
  call (.rebuild set.name selected prune) fun (churn : Churn) =>
    (each (fun event => ask (.record event)) (churnEvents set.name churn prune)).bind fun _ =>
      call .calendar fun now =>
        (StatusUpdate.run .set key [Mutation.set (emptyCondition selected.length now)] policy
          deadline).bind fun
          | .ok result => done (.ok (.reconciled selected.length churn result.updated))
          | .error e => done (.error e)

/-- Brings the set of a key up to date, if it exists and is not marked for deletion. -/
def bringUpToDate (prune : Bool) (policy : RetryPolicy) (deadline : Option Moment) (key : Key) :
    Program (Except StoreError SyncOutcome) :=
  if key.ns.isSome then
    done (.error (.precondition ("ManagedClusterSet is cluster-scoped; got key " ++ key.display)))
  else
    call (.get .set key) fun
      | .error e => done (.error e)
      | .ok none => done (.ok .missing)
      | .ok (some set) =>
        if set.isDeleting then done (.ok .deleting)
        else call (.list .member) fun
          | .error e => done (.error e)
          | .ok members => refresh prune policy deadline key set members

/-- Reconciles the set of a key, and counts it. -/
def reconcile (prune : Bool) (policy : RetryPolicy) (deadline : Option Moment) (key : Key) :
    Program (Except StoreError SyncOutcome) :=
  call (.count .syncs) fun _ =>
    (bringUpToDate prune policy deadline key).bind fun result =>
      call (.count .syncLatency) fun _ =>
        match result with
        | .ok outcome => done (.ok outcome)
        | .error e => call (.count .syncErrors) fun _ => done (.error e)

/-- The keys of all sets. -/
def all : Program (Except StoreError (List Key)) :=
  call (.list .set) fun
    | .error e => done (.error e)
    | .ok sets => done (.ok (sets.map Resource.key))

/-- The keys of the set that a member's label names and of the one it was cached under. -/
def concerned (member : Resource) (previous : Option String) : List Key :=
  let current := member.clusterSet?.toList
  (current ++ previous.toList.filter fun set => !current.contains set).map Key.cluster

/-- The sets that a change of a member concerns. A member that is gone is forgotten. -/
def concernedBy : Change → Program (List Key)
  | .applied member => call (.cached member.name) fun previous => done (concerned member previous)
  | .deleted member => call (.forget member.name) fun previous => done (concerned member previous)

end ClusterSet

end ClusterFleet
