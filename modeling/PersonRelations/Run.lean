import PersonRelations.Extraction
import PersonRelations.Input.Dump
import PersonRelations.Output.RelationFiles
import PersonRelations.Settings

/-!
# Runs

A run reads a dump and writes the relation files. Its steps come in a fixed order, and each one is
taken only if those before it went well: open the relation files, open the dump, extract, finish
the files. So an unusable output directory is found before the dump is looked at.

The duration of a run is no function of its input. `Run.perform` is all that does not need it, and
`Run.complete` adds it to the counters and reports them; `run` is both.
-/

namespace PersonRelations

/-- What a run comes to. -/
structure Run where
  /-- The counters, or the error that ended the run. -/
  result : Except Error Stats
  /-- What was reported, in order. -/
  events : List Event
  /-- The files after the run. -/
  tree : FileTree

namespace Run

/-- Extracts from an open dump into open files, and finishes or gives up the files. -/
def extractInto (s : Settings) (files : RelationFiles) (dump : Source) : Run :=
  let pass := extract s.parser s.progressInterval files dump.lines
  match pass.result with
  | .error e => ⟨.error e, pass.events, pass.sink.close⟩
  | .ok stats =>
    match pass.sink.finish with
    | (t, failures, some e) => ⟨.error e, pass.events ++ failures, t⟩
    | (t, failures, none) => ⟨.ok stats, pass.events ++ failures, t⟩

/-- Opens the dump and extracts from it into open files. -/
def readDump (s : Settings) (files : RelationFiles) (input : Path) : Run :=
  match files.tree.openDump input with
  | .error e => ⟨.error e, [], files.close⟩
  | .ok dump => extractInto s files dump

/-- The run with events that came before it. -/
def after (x : Run) (earlier : List Event) : Run :=
  { x with events := earlier ++ x.events }

/-- A run up to the point at which its duration is known. -/
def perform (s : Settings) (t : FileTree) (input : Path) : Run :=
  let opening := RelationFiles.createIn t s.output.dir s.output.createDir
  match opening with
  | .refused e t => ⟨.error e, opening.events, t⟩
  | .opened files =>
    (readDump s files input).after (opening.events ++ [.extracting input files.dir])

/-- The events with which a run that went well ends: the counters, then each relation's. -/
def closingEvents (stats : Stats) : List Event :=
  .completed stats :: stats.relationCounts.map fun (r, n) ↦ .relationWritten r n

/-- The run with its duration noted and reported, if it went well. -/
def complete (x : Run) (elapsed : Count) : Run :=
  match x.result with
  | .error _ => x
  | .ok stats =>
    let stats := { stats with elapsedMs := elapsed }
    { x with result := .ok stats, events := x.events ++ closingEvents stats }

@[simp]
theorem tree_complete (x : Run) (elapsed : Count) : (x.complete elapsed).tree = x.tree := by
  unfold complete
  split <;> rfl

@[simp]
theorem tree_after (x : Run) (earlier : List Event) : (x.after earlier).tree = x.tree :=
  rfl

@[simp]
theorem result_after (x : Run) (earlier : List Event) : (x.after earlier).result = x.result :=
  rfl

end Run

/-- Reads the dump at `input` and writes the relation files that the settings ask for, in
`elapsed` milliseconds. -/
def run (s : Settings) (t : FileTree) (input : Path) (elapsed : Count) : Run :=
  (Run.perform s t input).complete elapsed

end PersonRelations
