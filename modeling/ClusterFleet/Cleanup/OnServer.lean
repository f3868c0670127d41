import ClusterFleet.Api.Document
import ClusterFleet.Api.Server
import ClusterFleet.Cleanup.Access

/-!
# Cleanup — on an API server

The requests of cleanup as requests to an API server. What the server answers to a deletion is
either the object that is going away or a report on the deletion; an answer that is neither is an
error, though the deletion may have taken place.
-/

namespace ClusterFleet

namespace OnServer

/-! ## Shapes of the objects that targets name -/

/-- A rule of a role. -/
def policyRule : Shape :=
  Shape.record "PolicyRule"
    (Shape.optionals
      [("apiGroups", Shape.list Shape.text), ("nonResourceURLs", Shape.list Shape.text),
       ("resourceNames", Shape.list Shape.text), ("resources", Shape.list Shape.text),
       ("verbs", Shape.list Shape.text)])

/-- A selection of objects by their labels. -/
def labelSelector : Shape :=
  Shape.record "LabelSelector"
    (Shape.optionals
      [("matchExpressions",
        Shape.list (Shape.recordWithTexts "LabelSelectorRequirement" ["key", "operator"]
          (Shape.optionals [("values", Shape.list Shape.text)]))),
       ("matchLabels", Shape.textMap)])

/-- The fields of the objects of a kind, apart from type and metadata. -/
def ownFields : TargetKind → List (String × Shape)
  | .wholeNamespace =>
    [("spec", Shape.record "NamespaceSpec"
        (Shape.optionals [("finalizers", Shape.list Shape.text)])),
     ("status", Shape.record "NamespaceStatus"
        (Shape.optionals
          [("conditions",
            Shape.list (Shape.recordWithTexts "NamespaceCondition" ["status", "type"]
              (Shape.optionals
                [("lastTransitionTime", Shape.timestamp), ("message", Shape.text),
                 ("reason", Shape.text)]))),
           ("phase", Shape.text)]))]
  | .role => [("rules", Shape.list policyRule)]
  | .clusterRole =>
    [("aggregationRule", Shape.record "AggregationRule"
        (Shape.optionals [("clusterRoleSelectors", Shape.list labelSelector)])),
     ("rules", Shape.list policyRule)]
  | .roleBinding | .clusterRoleBinding =>
    [("roleRef", RoleRef.shape), ("subjects", Shape.list Subject.shape)]

/-- The shape of the objects of a kind. -/
def shapeOf (kind : TargetKind) : Shape :=
  Shape.record kind.name
    ([("apiVersion", Shape.exactly kind.apiVersion), ("kind", Shape.exactly kind.name)] ++
     Shape.optionals (("metadata", Schema.objectMeta) :: ownFields kind))

/-! ## The report on a deletion -/

/-- A field whose value is read but not kept. -/
def checked (name : String) (read : Json → Except Form.Fault α) : Form.Field Unit :=
  ⟨name, false, fun v => (read v).map fun _ => id⟩

/-- A number of 32 bits without sign. -/
def word32 : Json → Except Form.Fault Unit
  | .number (.int n) =>
    if 0 ≤ n && n ≤ Decimal.maxWord 32 then .ok ()
    else .error (.wrongValue (Form.found (.number (.int n))) "u32")
  | v => Form.mismatch v "u32"

/-- The form of one cause within a report. -/
def causeForm : Form.Record Unit where
  name := "StatusCause"
  blank := ()
  fields := [checked "reason" Form.text, checked "message" Form.text, checked "field" Form.text]

/-- The form of the details of a report. -/
def detailsForm : Form.Record Unit where
  name := "StatusDetails"
  blank := ()
  fields :=
    [checked "name" Form.text, checked "group" Form.text, checked "kind" Form.text,
     checked "uid" Form.text, checked "causes" (Form.list causeForm.read),
     checked "retryAfterSeconds" word32]

/-- The form of a report on a deletion. -/
def reportForm : Form.Record Unit where
  name := "Status"
  blank := ()
  fields :=
    [checked "status"
      (Form.optional (Form.word [("Success", true), ("Failure", false)])),
     checked "code" Server.readCode, checked "message" Form.text, checked "reason" Form.text,
     checked "details" (Form.optional detailsForm.read)]

/-- Reads the answer to the deletion of an object of a kind. -/
def readDeleted (kind : TargetKind) (v : Json) : Except Form.Fault Unit :=
  if (v.field? "kind").bind Json.text? = some "Status" then reportForm.read v
  else (shapeOf kind v).map fun _ => ()

/-! ## Requests -/

/-- The collection of the objects of a kind. -/
def collectionOf : TargetKind → Collection
  | .wholeNamespace => ⟨"", "v1", "namespaces"⟩
  | .role => ⟨accessGroup, "v1", "roles"⟩
  | .roleBinding => ⟨accessGroup, "v1", "rolebindings"⟩
  | .clusterRole => ⟨accessGroup, "v1", "clusterroles"⟩
  | .clusterRoleBinding => ⟨accessGroup, "v1", "clusterrolebindings"⟩

/-- The kind of the bindings of a reach. -/
def bindingKind : Reach → TargetKind
  | .cluster => .clusterRoleBinding
  | .namespaced => .roleBinding

/-- The namespace in the path of an object, if objects of its kind live in one. -/
def pathSpace (kind : TargetKind) (ns : String) : Option String :=
  if kind.isNamespaced then some ns else none

/-- Deletes an object. The request carries options, of which none are set. -/
def delete (kind : TargetKind) (ns name : String) (s : Server) : Except ApiError Unit × Server :=
  s.askFor (readDeleted kind) .delete ((collectionOf kind).objectPath (pathSpace kind ns) name)
    (some (.object []))

/-- Reads all bindings of a reach. -/
def listBindings (reach : Reach) (s : Server) : Except ApiError (List Binding) × Server :=
  match s.askFor (Page.read (Binding.read reach)) .get
      ((collectionOf (bindingKind reach)).path none) none with
  | (.ok page, s) => (.ok page.items, s)
  | (.error e, s) => (.error e, s)

/-- Replaces a binding. -/
def replaceBinding (reach : Reach) (b : Binding) (s : Server) : Except ApiError Unit × Server :=
  let kind := bindingKind reach
  match s.askFor (Binding.read reach) .put
      ((collectionOf kind).objectPath (pathSpace kind b.ns) b.name) (some (b.write reach)) with
  | (.ok _, s) => (.ok (), s)
  | (.error e, s) => (.error e, s)

instance : Access Server where
  listBindings := listBindings
  replaceBinding := replaceBinding
  deleteBinding reach := delete (bindingKind reach)
  deleteTarget t := delete t.kind (t.ns.getD "") t.name

end OnServer

end ClusterFleet
