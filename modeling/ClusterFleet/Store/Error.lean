import ClusterFleet.Decimal.Numeral
import ClusterFleet.Object.Key
import ClusterFleet.Object.Kind

/-!
# Store — errors

What reading and writing objects can end in, and which of these a later attempt may mend.
-/

namespace ClusterFleet

/-- Why an operation on objects failed. -/
inductive StoreError where
  /-- There is no such object. -/
  | notFound (kind : Kind) (key : Key)
  /-- The object has changed since the writer read it. -/
  | conflict (kind : Kind) (key : Key) (message : String)
  /-- Every attempt that the policy allows lost against another writer. -/
  | exhausted (kind : Kind) (key : Key) (attempts : Nat)
  /-- The deadline came before the update was done. -/
  | deadlineExceeded (kind : Kind) (key : Key)
  /-- The store could not be reached or did not answer as it should. -/
  | transient (message : String)
  /-- The request itself cannot be carried out. -/
  | precondition (message : String)
  deriving DecidableEq, Repr

namespace StoreError

/-- Kind and key, as messages name an object. -/
def subject (kind : Kind) (key : Key) : String :=
  kind.name ++ " " ++ key.display

/-- The wording of an error. -/
def message : StoreError → String
  | notFound kind key => subject kind key ++ " not found"
  | conflict kind key text => "conflict writing " ++ subject kind key ++ ": " ++ text
  | exhausted kind key attempts =>
    "gave up updating " ++ subject kind key ++ " status after " ++ Decimal.text attempts ++
      " conflicting attempts"
  | deadlineExceeded kind key =>
    "deadline exceeded while updating " ++ subject kind key ++ " status"
  | transient text => "transient: " ++ text
  | precondition text => "precondition: " ++ text

/-- Whether the object was missing. -/
def isNotFound : StoreError → Bool
  | notFound .. => true
  | _ => false

/-- Whether a single write lost against another writer. -/
def isConflict : StoreError → Bool
  | conflict .. => true
  | _ => false

/-- Whether doing the same again can end differently: only a request that cannot be carried out
stays so. -/
def isRetryable : StoreError → Bool
  | precondition _ => false
  | _ => true

end StoreError

end ClusterFleet
