import ClusterFleet.Api.Store
import ClusterFleet.Cleanup.Folder
import ClusterFleet.Cleanup.Group
import ClusterFleet.Cleanup.OnServer
import ClusterFleet.Command.Report
import ClusterFleet.Url.Endpoint

/-!
# Command line — execution

What a command does, given its surroundings: environment variables, files, the API server, and the
time of day. One command, which goes on until it is interrupted, is not executed here.
-/

namespace ClusterFleet

namespace Command

/-- What a command finds around it. -/
structure Surroundings where
  /-- The environment variables. -/
  environment : Environment
  /-- The files. -/
  files : FileTree
  /-- The API server. -/
  server : Server
  /-- The time of day. -/
  calendar : Instant

/-- A server to which no network leads. -/
def offlineServer : Server :=
  Server.unreachable "client error (Connect)"
    ["tcp connect error", "Network is unreachable (os error 101)"]

/-- Brings one set up to date. A time limit that the clock does not reach breaks the command off. -/
def syncOnce (form : OutputForm) (set : String) (s : Surroundings) : Printed × Server :=
  let settings := Settings.ofEnvironment s.environment
  let hub := Hub.start s.server settings.queueCapacity s.calendar
  let deadline := match settings.syncTimeout with
    | none => some none
    | some span => (hub.clock.after? span).map some
  match deadline with
  | none => (.broken, s.server)
  | some deadline =>
    let task := ClusterSet.reconcile settings.prune settings.retry deadline (Key.cluster set)
    match hub.runAlone task with
    | (.result (.ok outcome), hub) => (.good (syncText form set outcome), hub.store)
    | (.result (.error e), hub) => (.failed (.plain e.message), hub.store)
    | (_, hub) => (.broken, hub.store)

/-- How a pass of cleanup ends. It prints nothing but its failure. -/
def ofPass (pass : Pass Server) : Printed × Server :=
  match pass.result with
  | .ok () => (.good "", pass.cluster)
  | .error failure => (.failed failure, pass.cluster)

/-- Executes a task. Nothing comes of the one that goes on until it is interrupted. -/
def execute (form : OutputForm) (s : Surroundings) : Task → Option (Printed × Server)
  | .run .. => none
  | .sync set => some (syncOnce form set s)
  | .checkUrl url =>
    let isValid := Url.isSecureEndpoint url
    some (⟨if isValid then 0 else 1, urlText form url isValid, ""⟩, s.server)
  | .cleanupGroup group => some (ofPass (GroupCleanup.runAll group s.server))
  | .cleanupManifests files folder clusterName =>
    some (ofPass (ManifestCleanup.run (ManifestSource.ofFolder s.files folder clusterName) files
      s.server))

/-- Does what the arguments of the program ask for. -/
def run (s : Surroundings) (args : List String) : Option (Printed × Server) :=
  match Asked.read s.environment args with
  | .misuse => some (.misuse, s.server)
  | .version => some (.good versionText, s.server)
  | .explain name => some (.good (Help.text s.environment name), s.server)
  | .perform form task => execute form s task

end Command

end ClusterFleet
