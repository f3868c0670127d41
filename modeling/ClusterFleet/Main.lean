import ClusterFleet.Command.Execution

/-!
# The program

The command line program. It has no way to an API server, so of the commands that need one it tells
why they fail.
-/

namespace ClusterFleet

/-- The environment variables that the program looks at. -/
def variableNames : List String :=
  ["HUB_RETRY_STEPS", "HUB_RETRY_INITIAL_MS", "HUB_RETRY_FACTOR", "HUB_RETRY_JITTER",
   "HUB_SYNC_TIMEOUT_SECS", "HUB_WORKERS", "HUB_QUEUE_CAP", "HUB_PRUNE_MEMBERSHIP",
   "HUB_RESYNC_SECS", "HUB_REQUEUE_BASE_MS", "HUB_REQUEUE_MAX_SECS", Command.clusterVariable]

/-- The environment of the program. -/
def readEnvironment : IO Environment := do
  let pairs ← variableNames.mapM fun name => do return (name, ← IO.getEnv name)
  return fun name => (pairs.lookup name).join

/-- The paths of the files that a task reads. -/
def pathsOf : Command.Asked → List String
  | .perform _ (.cleanupManifests files folder _) => files.map (FileTree.join folder)
  | _ => []

/-- The place of the file at a path, as the file tree finds it. -/
def placeOfPath (here : List String) (path : String) : List String :=
  let start := if FileTree.isAbsolute path then [] else here
  (FileTree.segments path).foldl
    (fun place name =>
      if name.isEmpty || name = "." then place
      else if name = ".." then place.dropLast
      else place ++ [name])
    start

/-- The files at some paths, as far as they can be read. -/
def readFiles (paths : List String) : IO FileTree := do
  let here := ["here"]
  let mut files := []
  for path in paths do
    let bytes? ← try some <$> IO.FS.readBinFile path catch _ => pure none
    match bytes? with
    | some bytes => files := (placeOfPath here path, bytes) :: files
    | none => pure ()
  return ⟨files, [], here⟩

/-- Goes on until it is interrupted. -/
partial def waitForInterrupt : IO Unit := do
  IO.sleep 60000
  waitForInterrupt

end ClusterFleet

open ClusterFleet in
/-- Does what the arguments ask for. Since no server answers, no time of day is ever written. -/
def main (args : List String) : IO UInt32 := do
  let environment ← readEnvironment
  let files ← readFiles (pathsOf (Command.Asked.read environment args))
  match Command.run ⟨environment, files, Command.offlineServer, Instant.epoch⟩ args with
  | none =>
    waitForInterrupt
    return 0
  | some (printed, _) =>
    (← IO.getStdout).putStr printed.output
    (← IO.getStderr).putStr printed.errors
    return printed.exit.toUInt32
