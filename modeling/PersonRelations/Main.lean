import PersonRelations.Command.Program
import PersonRelations.Command.Snapshot

/-!
# The command line

Looks at the disk, lets the program work on what was found, brings the changes to the disk and
prints.
-/

namespace PersonRelations.Command

/-- The variables that the program looks at. -/
def variableNames : List String :=
  ["WDP_OUTPUT_DIR", "WDP_PROGRESS_INTERVAL", "LOG_LEVEL", "LOG_FORMAT", logVariable]

/-- The environment, as far as the program looks at it. -/
def readEnvironment : IO Environment := do
  let values ← variableNames.mapM fun k ↦ return (k, (← IO.getEnv k).map (·.toUTF8.data.toList))
  return fun k ↦ (values.lookup k).join

/-- The devices, which are known by their paths and not looked into. -/
def devices : List (Path × Device) :=
  [(.ofString "/dev/null", .null), (.ofString "/dev/full", .full)]

/-- What is at a path. -/
def look (p : Path) : IO (Option Entry) := do
  match devices.lookup p with
  | some d => return some (.device d)
  | none =>
    try
      return some (.file (← IO.FS.readBinFile p.display))
    catch
      | .inappropriateType _ 21 _ => return some .dir
      | _ => return none

/-- The tree with what is found at each step of the paths. -/
def lookAt (t : FileTree) (paths : List Path) : IO FileTree := do
  let mut t := t
  for s in Snapshot.allSights t paths do
    if let some e ← look s.path then
      t := t.put s.loc e
  return t

/-- Brings one change to the disk. -/
def applyChange : Snapshot.Change → IO Unit
  | .makeDir p => IO.FS.createDir p.display
  | .writeFile p content => IO.FS.writeBinFile p.display content

/-- Runs the program on the tree and brings its changes to the disk. -/
def runOn (args : List Word) (env : Environment) (t : FileTree) (paths : List Path) :
    IO Execution := do
  let began ← IO.monoMsNow
  let started ← IO.lazyPure fun _ ↦ start args env t
  let ended ← IO.monoMsNow
  let x := started.finish (UInt64.ofNat (ended - began))
  for c in (Snapshot.allSights t paths).filterMap (Snapshot.change? t x.tree) do
    applyChange c
  return x

/-- The program on this disk. -/
def executeHere (args : List Word) (env : Environment) : IO Execution := do
  match Invocation.parse args with
  | .error e => return e.execution (Snapshot.emptyTree 0)
  | .ok x =>
    let configTree ← lookAt (Snapshot.emptyTree ((x.config?.map Snapshot.climb).getD 0))
      x.config?.toList
    match x.settings env configTree with
    | .error e => return refusedSettings e configTree
    | .ok s =>
      let paths := x.touched s
      let t ← lookAt (Snapshot.emptyTree (paths.foldr (fun p n ↦ Snapshot.climb p + n) 0)) paths
      runOn args env t paths

end PersonRelations.Command

/-- Reads the dump named on the command line and writes one file for each relation. -/
def main (args : List String) : IO UInt32 := do
  let env ← PersonRelations.Command.readEnvironment
  let x ← PersonRelations.Command.executeHere (args.map fun a ↦ a.toUTF8.data.toList) env
  IO.print x.stdout
  x.stderr.forM IO.eprintln
  return x.code.toUInt32
