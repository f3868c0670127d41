import ClusterFleet.Json.Basic

/-!
# Hub — the membership cache

Which set each member was last seen in. The cache advises only; the store decides. It is a map
from members to sets, kept in ascending order of the members' names.
-/

namespace ClusterFleet

/-- Which set each member was last seen in, in ascending order of the members. -/
structure Membership where
  /-- Members with their sets, each member once. -/
  entries : List (String × String)
  deriving DecidableEq, Repr

/-- Who joined and who left a set in one rebuild. -/
structure Churn where
  /-- The members that were in no set or in another one before. -/
  joined : List String
  /-- The members that were in the set and are not selected any more. -/
  left : List String
  deriving DecidableEq, Repr

/-- Whether nobody joined and nobody left. -/
def Churn.isEmpty (c : Churn) : Bool :=
  c.joined.isEmpty && c.left.isEmpty

namespace Membership

/-- The cache that knows of no member. -/
def empty : Membership := ⟨[]⟩

/-- The set that a member was last seen in. -/
def get? (c : Membership) (member : String) : Option String :=
  Fields.get? member c.entries

/-- Notes the set that a member is in. -/
def insert (member set : String) (c : Membership) : Membership :=
  ⟨Fields.insert member set c.entries⟩

/-- Drops a member. -/
def forget (member : String) (c : Membership) : Membership :=
  ⟨Fields.erase member c.entries⟩

/-- The members last seen in a set, in ascending order. -/
def membersOf (c : Membership) (set : String) : List String :=
  (c.entries.filter fun p => p.2 = set).map (·.1)

/-- Points every selected member at a set, and collects those that were not there before. -/
def join (set : String) : List String → Membership → List String × Membership
  | [], c => ([], c)
  | member :: rest, c =>
    let (joined, after) := join set rest (c.insert member set)
    (if c.get? member = some set then joined else member :: joined, after)

/-- Points every selected member at a set. The members that are cached under the set but not
selected have left it; they are dropped only when pruning. -/
def rebuild (set : String) (selected : List String) (prune : Bool) (c : Membership) :
    Churn × Membership :=
  let (joined, after) := join set selected c
  let left := (after.membersOf set).filter fun member => !selected.contains member
  (⟨joined, left⟩, if prune then left.foldl (fun c member => c.forget member) after else after)

end Membership

end ClusterFleet
