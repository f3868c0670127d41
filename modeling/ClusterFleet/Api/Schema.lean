import ClusterFleet.Api.Shape

/-!
# API — the server's types

The shapes of the types that the API server exchanges with the hub: metadata of objects and of
lists, role bindings, and the status of a request to sign a certificate.
-/

namespace ClusterFleet

namespace Schema

open Shape

/-- Who owns an object. -/
def ownerReference : Shape :=
  recordWithTexts "OwnerReference" ["apiVersion", "kind", "name", "uid"]
    (optionals [("blockOwnerDeletion", boolean), ("controller", boolean)])

/-- Who manages which fields of an object. -/
def managedFieldsEntry : Shape :=
  record "ManagedFieldsEntry"
    (optionals
      [("apiVersion", text), ("fieldsType", text), ("fieldsV1", any), ("manager", text),
       ("operation", text), ("subresource", text), ("time", timestamp)])

/-- The metadata of an object. -/
def objectMeta : Shape :=
  record "ObjectMeta"
    (optionals
      [("annotations", textMap), ("creationTimestamp", timestamp),
       ("deletionGracePeriodSeconds", integer), ("deletionTimestamp", timestamp),
       ("finalizers", list text), ("generateName", text), ("generation", integer),
       ("labels", textMap), ("managedFields", list managedFieldsEntry), ("name", text),
       ("namespace", text), ("ownerReferences", list ownerReference), ("resourceVersion", text),
       ("selfLink", text), ("uid", text)])

/-- The metadata of a list. -/
def listMeta : Shape :=
  record "ListMeta"
    (optionals
      [("continue", text), ("remainingItemCount", integer), ("resourceVersion", text),
       ("selfLink", text)])

/-- The status of a request to sign a certificate. -/
def signingStatus : Shape :=
  record "CertificateSigningRequestStatus"
    (optionals
      [("certificate", bytes),
       ("conditions",
        list (recordWithTexts "CertificateSigningRequestCondition" ["status", "type"]
          (optionals
            [("lastTransitionTime", timestamp), ("lastUpdateTime", timestamp),
             ("message", text), ("reason", text)])))])

end Schema

/-- A request to sign a certificate, as far as its conditions tell. -/
structure SigningStatus where
  /-- The types of its conditions. -/
  conditionTypes : List String
  deriving DecidableEq, Repr

namespace SigningStatus

/-- Reads the status of a request to sign a certificate. -/
def read (v : Json) : Except Form.Fault SigningStatus := do
  let status ← Schema.signingStatus v
  let conditions := ((status.field? "conditions").bind Json.items?).getD []
  return ⟨conditions.filterMap fun c => (c.field? "type").bind Json.text?⟩

/-- Whether the request was decided: it was approved or denied. -/
def isTerminal (s : SigningStatus) : Bool :=
  s.conditionTypes.any fun type => type = "Approved" || type = "Denied"

end SigningStatus

end ClusterFleet
