import ClusterFleet.Failure
import ClusterFleet.Store.Error
import ClusterFleet.Text.Quoted

/-!
# API — errors of the server and of the way to it

Why a request to the API server had no good answer, how that is worded, and what it means to those
who use the server as a store of objects.
-/

namespace ClusterFleet

/-- The server's own account of a failed request. -/
structure Refused where
  /-- The status word, usually `Failure`. -/
  status : String
  /-- What went wrong, for people. -/
  message : String
  /-- What went wrong, one word. -/
  reason : String
  /-- The number of the error. -/
  code : Nat
  deriving DecidableEq, Repr

/-- Why a request had no good answer. -/
inductive ApiError where
  /-- The server refused it. -/
  | refused (r : Refused)
  /-- The answer has no line break where one must be. -/
  | lineBreak
  /-- The address asks for encryption, and there is none. -/
  | encryption
  /-- The server could not be reached; the messages go from what failed to its cause. -/
  | unreachable (message : String) (causes : List String)
  /-- The answer is not of the expected form. -/
  | undecodable
  /-- The request cannot be written, for this reason. -/
  | unwritable (reason : String)
  deriving DecidableEq, Repr

namespace ApiError

/-- The account of a refusal, field by field. -/
def accountText (r : Refused) : String :=
  "(ErrorResponse \x7b status: " ++ Text.quoted r.status ++ ", message: " ++ Text.quoted r.message ++
    ", reason: " ++ Text.quoted r.reason ++ ", code: " ++ Decimal.text r.code ++ " \x7d)"

/-- Message and reason of a refusal. -/
def summary (r : Refused) : String :=
  r.message ++ ": " ++ r.reason

/-- What is said of a request that cannot be written. -/
def unwritableText (reason : String) : String :=
  "failed to build request: " ++ reason

/-- The wording of an error. -/
def message : ApiError → String
  | refused r => "ApiError: " ++ summary r ++ " " ++ accountText r
  | lineBreak => "Error finding newline character"
  | encryption => "TLS required but no TLS stack selected"
  | unreachable text _ => "ServiceError: " ++ text
  | undecodable => "Error deserializing response"
  | unwritable reason => "Failed to build request: " ++ unwritableText reason

/-- The messages of the causes of an error. -/
def causes : ApiError → List String
  | refused r => [summary r]
  | unreachable text causes => text :: causes
  | unwritable reason => [unwritableText reason, reason]
  | _ => []

/-- An error as a failure, with its causes. -/
def failure (e : ApiError) : Failure :=
  ⟨e.message, e.causes⟩

/-- Whether the server says that there is no such object. -/
def isNotFound : ApiError → Bool
  | refused r => r.code = 404
  | _ => false

/-- What an error means for an operation on an object. The number of a refusal decides; what is no
refusal may mend. -/
def toStoreError (kind : Kind) (key : Key) (e : ApiError) : StoreError :=
  let other := StoreError.transient (StoreError.subject kind key ++ ": " ++ e.message)
  match e with
  | refused r =>
    if r.code = 404 then .notFound kind key
    else if r.code = 409 then .conflict kind key r.message
    else if r.code = 400 || r.code = 422 then
      .precondition (StoreError.subject kind key ++ " rejected: " ++ r.message)
    else other
  | _ => other

end ApiError

end ClusterFleet
