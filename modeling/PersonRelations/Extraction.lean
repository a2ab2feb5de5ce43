import PersonRelations.Event
import PersonRelations.Input.LineReader
import PersonRelations.Output.Sink
import PersonRelations.Statement

/-!
# Extraction

One pass over the lines of a dump. Each line is counted and parsed; a triple whose predicate
stands for a relation goes to the sink and is counted there once the sink has taken it, a
malformed line is counted and reported. At every multiple of the progress interval the counters
are reported. The first line that could not be read and the first record that the sink refuses
end the pass.
-/

namespace PersonRelations

namespace Stats

/-- Counts a line read. -/
def addLine (s : Stats) : Except ArithmeticError Stats :=
  s.linesRead.succ.map fun n ↦ { s with linesRead := n }

/-- Counts a line that was a triple. -/
def addTriple (s : Stats) : Except ArithmeticError Stats :=
  s.triplesParsed.succ.map fun n ↦ { s with triplesParsed := n }

/-- Counts a line that was not. -/
def addMalformed (s : Stats) : Except ArithmeticError Stats :=
  s.malformedLines.succ.map fun n ↦ { s with malformedLines := n }

/-- Whether the number of lines is a multiple of the interval. An interval of 0 has no multiple. -/
def isProgressDue (s : Stats) (interval : Count) : Except ArithmeticError Bool :=
  if interval = 0 then .ok false else (s.linesRead.rem interval).map fun n ↦ n == 0

end Stats

/-- The state of a pass. -/
structure Extraction (σ : Type) where
  /-- What has been counted. -/
  stats : Stats := {}
  /-- Where the records go. -/
  sink : σ
  /-- What has been reported. -/
  events : Array Event := #[]

namespace Extraction

variable {σ : Type} [Sink σ]

/-- Hands a record to the sink and counts it. -/
def write (x : Extraction σ) (r : Record) : Extraction σ × Option Error :=
  match Sink.write x.sink r with
  | (sink, some e) => ({ x with sink := sink }, some e)
  | (sink, none) =>
    let (stats, overflow) := x.stats.record r.relation
    ({ x with sink := sink, stats := stats }, overflow.map .arithmetic)

/-- Deals with one parsed line. -/
def take (x : Extraction σ) : Statement → Extraction σ × Option Error
  | .triple t =>
    match x.stats.addTriple with
    | .error e => (x, some (.arithmetic e))
    | .ok stats =>
      match t.relation? with
      | none => ({ x with stats := stats }, none)
      | some r => { x with stats := stats }.write ⟨r, t.subject, t.object⟩
  | .malformed parts =>
    match x.stats.addMalformed with
    | .error e => (x, some (.arithmetic e))
    | .ok stats =>
      ({ x with stats := stats, events := x.events.push (.malformedLine stats.linesRead parts) },
        none)

/-- Reports the counters at a multiple of the interval. -/
def reportProgress (interval : Count) (x : Extraction σ) : Extraction σ × Option Error :=
  match x.stats.isProgressDue interval with
  | .error e => (x, some (.arithmetic e))
  | .ok false => (x, none)
  | .ok true =>
    let report := .progress x.stats.linesRead x.stats.triplesWritten x.stats.malformedLines
    ({ x with events := x.events.push report }, none)

/-- Reads one line. -/
def step (parser : StatementParser) (interval : Count) (x : Extraction σ) (line : String) :
    Extraction σ × Option Error :=
  match x.stats.addLine with
  | .error e => (x, some (.arithmetic e))
  | .ok stats =>
    match { x with stats := stats }.take (parser.parse line) with
    | (x, some e) => (x, some e)
    | (x, none) => x.reportProgress interval

/-- Reads lines up to the end or the first error. -/
def run (parser : StatementParser) (interval : Count) (x : Extraction σ) :
    List LineItem → Extraction σ × Option Error
  | [] => (x, none)
  | .error e :: _ => (x, some e)
  | .ok line :: items =>
    match x.step parser interval line with
    | (x, some e) => (x, some e)
    | (x, none) => run parser interval x items

/-- The counters of a pass that ended well, or the error that ended it. -/
def result (x : Extraction σ) : Option Error → Except Error Stats
  | none => .ok x.stats
  | some e => .error e

end Extraction

/-- What a pass comes to. -/
structure Extracted (σ : Type) where
  /-- The counters, or the error that ended the pass. -/
  result : Except Error Stats
  /-- The sink after the pass. -/
  sink : σ
  /-- What was reported. -/
  events : List Event

/-- Passes over the lines and hands what is found to the sink. -/
def extract {σ : Type} [Sink σ] (parser : StatementParser) (interval : Count) (sink : σ)
    (items : List LineItem) : Extracted σ :=
  let (x, error) := Extraction.run parser interval ⟨{}, sink, #[]⟩ items
  ⟨x.result error, x.sink, x.events.toList⟩

end PersonRelations
