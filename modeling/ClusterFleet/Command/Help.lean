import ClusterFleet.Command.Arguments

/-!
# Command line — help

The explanations of the program and of its commands.
-/

namespace ClusterFleet

namespace Command

/-- The name of the program. -/
def programName : String := "hubctl"

/-- The version of the program. -/
def programVersion : String := "0.0.0"

/-- Lines as a text. -/
def textOfLines (lines : List String) : String :=
  String.join (lines.map (· ++ "\n"))

/-- The line that tells the version. -/
def versionText : String :=
  textOfLines [programName ++ " " ++ programVersion]

namespace Help

/-- The line that shows how a command is used. -/
def usage (rest : String) : String :=
  "Usage: " ++ programName ++ " " ++ rest

/-- What the option for the form of the output does. -/
def outputText : String :=
  "Output format [default: human] [possible values: human, json]"

/-- The options that go with every command, beside what they do. -/
def commonBeside : List String :=
  ["Options:", "  -o, --output <OUTPUT>  " ++ outputText, "  -h, --help             Print help"]

/-- The option for the form of the output, above what it does. -/
def outputAbove : List String :=
  ["  -o, --output <OUTPUT>", "          " ++ outputText]

/-- The option for help, above what it does. -/
def helpAbove : List String :=
  ["  -h, --help", "          Print help"]

/-- An option with a long name only, above what it does. -/
def longAbove (option text : String) : List String :=
  ["      --" ++ option, "          " ++ text]

/-- What a command does. -/
def summary : Name → String
  | .run => "Watch clusters and cluster sets and keep set status current"
  | .sync => "Reconcile one cluster set once and print the outcome"
  | .checkUrl => "Check that a URL is a well-formed https endpoint"
  | .cleanupGroup => "Remove an RBAC group from every (Cluster)RoleBinding"
  | .cleanupManifests => "Delete the objects named by manifest files"
  | .help => "Print this message or the help of the given subcommand(s)"

/-- How a command is used, and its arguments. -/
def details (env : Environment) : Name → List String
  | .run =>
    [usage "run [OPTIONS]", "", "Options:"] ++ outputAbove ++
      longAbove "workers <WORKERS>" "Worker count (overrides HUB_WORKERS)" ++
      longAbove "queue-cap <QUEUE_CAP>" "Work queue capacity (overrides HUB_QUEUE_CAP)" ++
      longAbove "sync-timeout-secs <SYNC_TIMEOUT_SECS>"
        "Per-sync deadline in seconds, 0 disables (overrides HUB_SYNC_TIMEOUT_SECS)" ++
      longAbove "prune-membership" "Drop cache entries of members that left a set" ++ helpAbove
  | .sync =>
    [usage "sync [OPTIONS] <SET>", "", "Arguments:", "  <SET>  ManagedClusterSet name", ""] ++
      commonBeside
  | .checkUrl =>
    [usage "check-url [OPTIONS] <URL>", "", "Arguments:", "  <URL>  ", ""] ++ commonBeside
  | .cleanupGroup =>
    [usage "cleanup-group [OPTIONS] <GROUP>", "", "Arguments:", "  <GROUP>  ", ""] ++ commonBeside
  | .cleanupManifests =>
    [usage "cleanup-manifests [OPTIONS] --cluster-name <CLUSTER_NAME> [FILES]...", "",
     "Arguments:", "  [FILES]...  Manifest file names, relative to --dir", "", "Options:"] ++
      longAbove "dir <DIR>" "Directory holding the manifest templates [default: .]" ++ outputAbove ++
      longAbove "cluster-name <CLUSTER_NAME>"
        ("Substituted for \x7b\x7b .ManagedClusterName \x7d\x7d [env: " ++ clusterVariable ++ "=" ++
          (env clusterVariable).getD "" ++ "]") ++ helpAbove
  | .help =>
    [usage "help [COMMAND]...", "", "Arguments:",
     "  [COMMAND]...  Print help for the subcommand(s)"]

/-- The explanation of a command. -/
def ofName (env : Environment) (name : Name) : String :=
  textOfLines (summary name :: "" :: details env name)

/-- The line that a command has in the list of all. -/
def listed (word : String × Name) : String :=
  let gap := List.replicate (19 - word.1.length) ' '
  "  " ++ word.1 ++ String.ofList gap ++ summary word.2

/-- The explanation of the program. -/
def ofProgram : String :=
  textOfLines
    (["fleethub hub controller", "", usage "[OPTIONS] <COMMAND>", "", "Commands:"] ++
      Name.words.map listed ++ "" :: commonBeside ++ ["  -V, --version          Print version"])

/-- The explanation that is asked for. -/
def text (env : Environment) : Option Name → String
  | none => ofProgram
  | some name => ofName env name

end Help

end Command

end ClusterFleet
