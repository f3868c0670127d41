import ClusterFleet.Command.Option
import ClusterFleet.Hub.Settings

/-!
# Command line — commands

What can be asked of the hub on the command line: the commands, their arguments, and the form in
which they print. The name of the cluster that manifests are for can also be set in the environment.
-/

namespace ClusterFleet

namespace Command

/-! ## Commands and their arguments -/

/-- The form in which a command prints. -/
inductive OutputForm where
  /-- For people. -/
  | human
  /-- As JSON. -/
  | json
  deriving DecidableEq, Repr

/-- The words for the forms. -/
def OutputForm.words : List (String × OutputForm) :=
  [("human", .human), ("json", .json)]

/-- The names of commands. -/
inductive Name where
  /-- Keeps sets up to date until interrupted. -/
  | run
  /-- Brings one set up to date. -/
  | sync
  /-- Checks a URL. -/
  | checkUrl
  /-- Takes a group out of all bindings. -/
  | cleanupGroup
  /-- Deletes what manifests name. -/
  | cleanupManifests
  /-- Explains a command. -/
  | help
  deriving DecidableEq, Repr

/-- The words for the commands. -/
def Name.words : List (String × Name) :=
  [("run", .run), ("sync", .sync), ("check-url", .checkUrl), ("cleanup-group", .cleanupGroup),
   ("cleanup-manifests", .cleanupManifests), ("help", .help)]

/-- A command with its arguments. -/
inductive Task where
  /-- Keep sets up to date. What is given here goes before what the environment says. -/
  | run (workers queueCapacity syncTimeout : Option Nat) (prune : Bool)
  /-- Bring the set of a name up to date. -/
  | sync (set : String)
  /-- Check a URL. -/
  | checkUrl (url : String)
  /-- Take a group out of all bindings. -/
  | cleanupGroup (group : String)
  /-- Delete what the manifests of a folder name, made for a cluster. -/
  | cleanupManifests (files : List String) (folder clusterName : String)
  deriving DecidableEq, Repr

/-- What the arguments ask for. -/
inductive Asked where
  /-- To do something, and to print in a form. -/
  | perform (output : OutputForm) (task : Task)
  /-- To explain a command, or all of them. -/
  | explain (name : Option Name)
  /-- To tell the version. -/
  | version
  /-- Nothing that makes sense. -/
  | misuse
  deriving DecidableEq, Repr

/-! ## Grammars -/

/-- The option for the form of the output, which goes with every command. -/
def outputOption : OptionRule :=
  ⟨.output, "output", some 'o', some fun v => (OutputForm.words.lookup v).isSome⟩

/-- The option for help, which goes with every command. -/
def helpOption : OptionRule :=
  ⟨.help, "help", some 'h', none⟩

/-- The option for the version. -/
def versionOption : OptionRule :=
  ⟨.version, "version", some 'V', none⟩

/-- Whether a text is a number of 64 bits. -/
def isWord (text : String) : Bool :=
  (Decimal.readBounded (Decimal.maxWord 64) text.toList).isSome

/-- The options of a command alone. -/
def ownOptions : Name → List OptionRule
  | .run =>
    [⟨.workers, "workers", none, some isWord⟩, ⟨.queueCapacity, "queue-cap", none, some isWord⟩,
     ⟨.syncTimeout, "sync-timeout-secs", none, some isWord⟩,
     ⟨.prune, "prune-membership", none, none⟩]
  | .cleanupManifests =>
    [⟨.folder, "dir", none, some fun v => !v.isEmpty⟩,
     ⟨.clusterName, "cluster-name", none, some fun _ => true⟩]
  | _ => []

/-- The number of arguments of a command that are no options. -/
def roomOf : Name → Option Nat
  | .run => some 0
  | .cleanupManifests => none
  | _ => some 1

/-- The grammar of the arguments after a command. -/
def grammarOf (name : Name) : Grammar :=
  ⟨outputOption :: helpOption :: ownOptions name, roomOf name, false⟩

/-- The grammar of the arguments before a command. -/
def outerGrammar : Grammar :=
  ⟨[outputOption, helpOption, versionOption], some 0, true⟩

/-! ## Reading -/

/-- The variable for the name of the cluster. -/
def clusterVariable : String := "HUB_CLUSTER_NAME"

/-- The folder of the manifests unless it is given. -/
def defaultFolder : String := "."

/-- The number that an option gives. -/
def numberOf (g : Given) (s : Setting) : Option Nat :=
  (g.value? s).bind fun v => Decimal.readBounded (Decimal.maxWord 64) v.toList

/-- The task of a command with its arguments, if none is missing. -/
def taskOf? (env : Environment) (name : Name) (g : Given) : Option Task :=
  match name, g.others with
  | .run, _ =>
    some (.run (numberOf g .workers) (numberOf g .queueCapacity) (numberOf g .syncTimeout)
      (g.has .prune))
  | .sync, [set] => some (.sync set)
  | .checkUrl, [url] => some (.checkUrl url)
  | .cleanupGroup, [group] => some (.cleanupGroup group)
  | .cleanupManifests, files =>
    ((g.value? .clusterName).or (env clusterVariable)).map fun clusterName =>
      .cleanupManifests files.reverse ((g.value? .folder).getD defaultFolder) clusterName
  | _, _ => none

/-- The form of the output: the one given after the command counts, then the one before it. -/
def formOf (outer inner : Given) : OutputForm :=
  let word := (inner.value? .output).or (outer.value? .output)
  (word.bind fun w => OutputForm.words.lookup w).getD .human

/-- What is asked when the reading of the arguments of a command, or of all, ends early. -/
def askedOf (name : Option Name) : Stop → Asked
  | .help => .explain name
  | .version => .version
  | .misuse => .misuse

/-- What is asked by the arguments after the command for help. -/
def explainAsked : List String → Asked
  | [] => .explain none
  | [word] => match Name.words.lookup word with
    | some name => .explain (some name)
    | none => .misuse
  | _ => .misuse

/-- What is asked by the arguments after the word for a command. -/
def askedAfter (env : Environment) (outer : Given) (word : String) (args : List String) : Asked :=
  match Name.words.lookup word with
  | none => .misuse
  | some .help => explainAsked args
  | some name =>
    match (grammarOf name).read args with
    | .error stop => askedOf (some name) stop
    | .ok (inner, _) => match taskOf? env name inner with
      | none => .misuse
      | some task => .perform (formOf outer inner) task

/-- What the arguments of the program ask for. -/
def Asked.read (env : Environment) (args : List String) : Asked :=
  match outerGrammar.read args with
  | .error stop => askedOf none stop
  | .ok (_, []) => .misuse
  | .ok (outer, word :: rest) => askedAfter env outer word rest

end Command

end ClusterFleet
