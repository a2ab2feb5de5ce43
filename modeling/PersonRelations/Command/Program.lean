import PersonRelations.Command.Arguments
import PersonRelations.Log
import PersonRelations.Run
import PersonRelations.Stats.Json

/-!
# The program

What the program does with a command line, an environment and the files it finds: what it prints,
the status with which it ends, and the files it leaves.

`start` goes as far as the end of the run and needs no clock; `Started.finish` is told how long
that took and does the rest: the closing events of the run and the summary. `execute` is both.
-/

namespace PersonRelations.Command

/-! ### Error reports

How the program ends with an error: the error on the first line, then, after an empty line, what
caused it. A single cause is indented; several are numbered from the outermost inwards. The lines
of a cause that has several are kept under each other. -/

/-- The text with something before its first line and something before each later one. -/
def indent (first later text : String) : String :=
  first ++ ("\n" ++ later).intercalate (text.splitOn "\n")

/-- The number of a cause, to the right of a column of five. -/
def numberColumn (n : Nat) : String :=
  let digits := toString n
  String.ofList (List.replicate (5 - digits.length) ' ') ++ digits ++ ": "

/-- The causes below a report. -/
def causeLines : List String → List String
  | [] => []
  | [cause] => ["", "Caused by:", indent "    " "    " cause]
  | causes =>
    "" :: "Caused by:" :: causes.mapIdx fun n cause ↦ indent (numberColumn n) "       " cause

/-- An error with its causes, the nearest first. -/
def report (error : String) (causes : List String) : List String :=
  ("Error: " ++ error) :: causeLines causes

/-! ### Executions -/

/-- What the program comes to. -/
structure Execution where
  /-- The exit status. -/
  code : UInt8
  /-- What was printed as output. -/
  stdout : String := ""
  /-- The lines of the log and of error reports. -/
  stderr : List String := []
  /-- The files after it. -/
  tree : FileTree

/-- The version as it is printed. -/
def versionText : String := "wdp 0.1.0\n"

/-- The explanation as it is printed. -/
def helpText : String :=
  "\n".intercalate
    ["Extract person relations from a Wikidata truthy dump",
      "",
      "Usage: wdp [OPTIONS] <INPUT>",
      "",
      "Arguments:",
      "  <INPUT>  Path to the gzip-compressed N-Triples dump",
      "",
      "Options:",
      "      --output-dir <OUTPUT_DIR>  " ++
        "Directory receiving one file per relation (default: people)",
      "      --create-dir               Create the output directory if it does not exist",
      "      --config <CONFIG>          TOML configuration file",
      "      --summary <SUMMARY>        Write run statistics as JSON to this file",
      "  -h, --help                     Print help",
      "  -V, --version                  Print version",
      ""]

/-- What comes of a command line that asks for no run. -/
def Ending.execution (e : Ending) (t : FileTree) : Execution :=
  match e with
  | .help => { code := 0, stdout := helpText, tree := t }
  | .version => { code := 0, stdout := versionText, tree := t }
  | .usage e => { code := 2, stderr := ["error: " ++ e.message], tree := t }

/-- What comes of settings that cannot be had. -/
def refusedSettings (e : SettingsError) (t : FileTree) : Execution :=
  { code := 1, stderr := report e.message (e.cause?.map Fault.message).toList, tree := t }

/-- A run that was carried out, and what is to be done with it. -/
structure Finished where
  invocation : Invocation
  log : Log
  run : Run

namespace Finished

/-- The lines that have been printed. -/
def lines (x : Finished) : List String :=
  x.log.complaints ++ x.log.lines x.run.events

/-- The end of the program with an error. -/
def failed (x : Finished) (t : FileTree) (error : String) (causes : List String) : Execution :=
  { code := 1, stderr := x.lines ++ report error causes, tree := t }

/-- The end of the program after a run that failed. -/
def runFailed (x : Finished) (e : Error) : Execution :=
  x.failed x.run.tree ("Extraction from " ++ x.invocation.input.display ++ " failed")
    (e.message :: (e.cause?.map Fault.message).toList)

/-- Writes the summary, which is the last step of the program. -/
def writeSummary (x : Finished) (stats : Stats) (path : Path) : Execution :=
  match x.run.tree.writeFile path stats.prettyJson.toUTF8 with
  | (t, some e) => x.failed t ("Failed to write summary to " ++ path.display) [e.message]
  | (t, none) => { code := 0, stderr := x.lines ++ x.log.lines [.summaryWritten path], tree := t }

/-- The end of the program. -/
def execution (x : Finished) : Execution :=
  match x.run.result, x.invocation.summary? with
  | .error e, _ => x.runFailed e
  | .ok stats, some path => x.writeSummary stats path
  | .ok _, none => { code := 0, stderr := x.lines, tree := x.run.tree }

end Finished

/-- The program at the end of its run, or at its own end if it has no run. -/
inductive Started where
  /-- There is no run. -/
  | ended (x : Execution)
  /-- The run is done; its duration is to be noted. -/
  | performed (x : Finished)

/-- The name of the variable with a log filter. -/
def logVariable : String := "RUST_LOG"

/-- The program up to the end of its run. -/
def start (args : List Word) (env : Environment) (t : FileTree) : Started :=
  match Invocation.parse args with
  | .error e => .ended (e.execution t)
  | .ok x =>
    match x.settings env t with
    | .error e => .ended (refusedSettings e t)
    | .ok s =>
      .performed ⟨x, .ofSettings s.log (env.text logVariable), .perform s t x.input⟩

/-- The rest of the program, after a run of `elapsed` milliseconds. -/
def Started.finish (s : Started) (elapsed : Count) : Execution :=
  match s with
  | .ended x => x
  | .performed x => { x with run := x.run.complete elapsed }.execution

/-- The whole program. -/
def execute (args : List Word) (env : Environment) (t : FileTree) (elapsed : Count) : Execution :=
  (start args env t).finish elapsed

end PersonRelations.Command
