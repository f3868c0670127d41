import ClusterFleet.Cleanup.Access

/-!
# Cleanup — scripts of answers

A cluster that only writes down what it is asked, and answers each request as a script says:
requests that the script names fail with the error it gives, all others succeed.
-/

namespace ClusterFleet

/-- One request that a script has seen. -/
structure ScriptCall where
  /-- What was asked. -/
  text : String
  /-- What the request carried, if anything. -/
  body : Option Json

/-- A cluster that answers by a script. -/
structure Script where
  /-- The bindings that a list has. -/
  bindings : List Binding
  /-- The errors of requests, by the text of the request. -/
  errors : List (String × ApiError)
  /-- The requests seen, oldest first. -/
  calls : List ScriptCall

namespace Script

/-- Notes a request and answers it. -/
def answer (text : String) (body : Option Json) (good : α) (s : Script) :
    Except ApiError α × Script :=
  let seen := { s with calls := s.calls ++ [⟨text, body⟩] }
  match Fields.get? text s.errors with
  | some e => (.error e, seen)
  | none => (.ok good, seen)

/-- The text of a request for one binding. -/
def bindingText (verb : String) (reach : Reach) (ns name : String) : String :=
  match reach with
  | .cluster => verb ++ " " ++ name
  | .namespaced => verb ++ " " ++ ns ++ "/" ++ name

/-- The text of a request for all bindings of a reach. -/
def listText : Reach → String
  | .cluster => "list clusterrolebindings"
  | .namespaced => "list rolebindings"

instance : Access Script where
  listBindings reach s := s.answer (listText reach) none s.bindings
  replaceBinding reach b :=
    answer (bindingText "replace" reach b.ns b.name) (some (b.write reach)) ()
  deleteBinding reach ns name := answer (bindingText "delete" reach ns name) none ()
  deleteTarget t := answer ("delete " ++ t.display) none ()

end Script

end ClusterFleet
