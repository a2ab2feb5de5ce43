import PersonRelations.Stats

/-!
# The summary as JSON

The counters as a JSON object, in one line (`Stats.compactJson`) or indented by two blanks
(`Stats.prettyJson`). The keys stand in a fixed order, the relations in table order and only those
with a count; an empty object is a pair of braces in both forms.
-/

namespace PersonRelations

/-- A JSON object whose values are numbers or such objects in turn. -/
inductive CountTree where
  | number (n : Count)
  | object (members : List (String × CountTree))

namespace CountTree

/-- A key in quotes. The keys of a summary need no escapes. -/
def key (s : String) : String :=
  "\"" ++ s ++ "\""

mutual

/-- The value in one line. -/
def compact : CountTree → String
  | number n => toString n.toNat
  | object [] => "\x7b\x7d"
  | object (m :: ms) => "\x7b" ++ compactMembers (m :: ms) ++ "\x7d"

/-- Members with a comma between them. -/
def compactMembers : List (String × CountTree) → String
  | [] => ""
  | [(k, v)] => key k ++ ":" ++ v.compact
  | (k, v) :: ms => key k ++ ":" ++ v.compact ++ "," ++ compactMembers ms

end

/-- A line break and the blanks of an indentation of the given depth. -/
def newline (depth : Nat) : String :=
  "\n" ++ String.ofList (List.replicate (2 * depth) ' ')

mutual

/-- The value over several lines, inside an object of the given depth. -/
def pretty (depth : Nat) : CountTree → String
  | number n => toString n.toNat
  | object [] => "\x7b\x7d"
  | object (m :: ms) =>
    "\x7b" ++ prettyMembers (depth + 1) (m :: ms) ++ newline depth ++ "\x7d"

/-- Members on lines of their own. -/
def prettyMembers (depth : Nat) : List (String × CountTree) → String
  | [] => ""
  | [(k, v)] => newline depth ++ key k ++ ": " ++ v.pretty depth
  | (k, v) :: ms =>
    newline depth ++ key k ++ ": " ++ v.pretty depth ++ "," ++ prettyMembers depth ms

end

end CountTree

namespace Stats

/-- The counters as an object. -/
def toTree (s : Stats) : CountTree :=
  .object
    [("lines_read", .number s.linesRead),
      ("triples_parsed", .number s.triplesParsed),
      ("malformed_lines", .number s.malformedLines),
      ("triples_written", .number s.triplesWritten),
      ("per_relation", .object (s.relationCounts.map fun (r, n) ↦ (r.name, .number n))),
      ("elapsed_ms", .number s.elapsedMs)]

/-- The counters in one line. -/
def compactJson (s : Stats) : String :=
  s.toTree.compact

/-- The counters over several lines. -/
def prettyJson (s : Stats) : String :=
  s.toTree.pretty 0

end Stats

end PersonRelations
