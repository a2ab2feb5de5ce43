import PersonRelations.Error
import PersonRelations.Stats

/-!
# Events

What a run reports while it works: each event has a severity, the part of the program that it
comes from, a message and further fields. `Event` lists them by meaning; how they are shown is the
log's business.
-/

namespace PersonRelations

/-- The severity of an event, the gravest first. -/
inductive Level where
  | error
  | warn
  | info
  | debug
  | trace
  deriving DecidableEq, Repr

namespace Level

/-- The level's name in a log line. -/
def name : Level → String
  | error => "ERROR"
  | warn => "WARN"
  | info => "INFO"
  | debug => "DEBUG"
  | trace => "TRACE"

/-- How much a reader has to want to see the level: 1 for errors to 5 for everything. -/
def verbosity : Level → Nat
  | error => 1
  | warn => 2
  | info => 3
  | debug => 4
  | trace => 5

end Level

/-- Something that a run reports. -/
inductive Event where
  /-- The relation files in the directory are open. -/
  | filesOpened (dir : Path)
  /-- The extraction begins. -/
  | extracting (input dir : Path)
  /-- A line was not a triple. -/
  | malformedLine (line : Count) (parts : List String)
  /-- A multiple of the progress interval was reached. -/
  | progress (lines written malformed : Count)
  /-- The extraction has ended well. -/
  | completed (stats : Stats)
  /-- How many pairs a relation got. -/
  | relationWritten (relation : Relation) (count : Count)
  /-- A relation file could not be flushed. -/
  | flushFailed (relation : Relation) (fault : Fault)
  /-- The summary is written. -/
  | summaryWritten (path : Path)
  deriving DecidableEq, Repr

/-- The value of an event's field. -/
inductive FieldValue where
  /-- A number. -/
  | number (n : Count)
  /-- A text. -/
  | text (s : String)
  /-- A list of texts, shown as such. -/
  | texts (ss : List String)
  deriving DecidableEq, Repr

namespace Event

/-- The event's severity. -/
def level : Event → Level
  | filesOpened _ => .debug
  | malformedLine _ _ => .warn
  | flushFailed _ _ => .error
  | extracting _ _ | progress _ _ _ | completed _ | relationWritten _ _ | summaryWritten _ => .info

/-- The part of the program that reports the event. -/
def target : Event → String
  | filesOpened _ | flushFailed _ _ => "wdp_extractor::writer"
  | summaryWritten _ => "wdp"
  | extracting _ _ | malformedLine _ _ | progress _ _ _ | completed _ | relationWritten _ _ =>
    "wdp_extractor::pipeline"

/-- The event in words. -/
def message : Event → String
  | filesOpened dir =>
    "Opened " ++ toString Relation.all.length ++ " relation files in " ++ dir.display
  | extracting input dir =>
    "Extracting person relations from " ++ input.display ++ " into " ++ dir.display
  | malformedLine _ _ => "Skipping malformed triple line"
  | progress _ _ _ => "Extraction progress"
  | completed _ => "Extraction completed"
  | relationWritten _ _ => "Relation written"
  | flushFailed r f => "Failed to flush " ++ r.name ++ ": " ++ f.message
  | summaryWritten path => "Summary written to " ++ path.display

/-- The event's fields besides the message, in the order in which they are shown. -/
def fields : Event → List (String × FieldValue)
  | malformedLine line parts => [("line", .number line), ("parts", .texts parts)]
  | progress lines written malformed =>
    [("lines", .number lines), ("written", .number written), ("malformed", .number malformed)]
  | completed s =>
    [("lines", .number s.linesRead), ("parsed", .number s.triplesParsed),
      ("malformed", .number s.malformedLines), ("written", .number s.triplesWritten),
      ("elapsed_ms", .number s.elapsedMs)]
  | relationWritten r n => [("relation", .text r.name), ("count", .number n)]
  | filesOpened _ | extracting _ _ | flushFailed _ _ | summaryWritten _ => []

/-- Whether the event has a field of the name. The message is one. -/
def hasField (e : Event) (name : String) : Bool :=
  name == "message" || e.fields.any fun (k, _) ↦ k == name

end Event

end PersonRelations
