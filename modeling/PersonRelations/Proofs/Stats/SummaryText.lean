import PersonRelations.Stats.Json

/-!
# The text of a summary

A summary is printed by a recursion over objects. Its text is said here without one: the members of
an object with a comma between them, in one line (`CountTree.line`) or on lines of their own
(`CountTree.block`). `Stats.compactJson_eq` and `Stats.prettyJson_eq` give the whole text of a
summary in these terms, counter by counter, and the relations with a count in the order in which
`Stats.relationCounts` has them.
-/

namespace PersonRelations

namespace CountTree

/-- Keys with the texts of their values as an object in one line. -/
def line (members : List (String × String)) : String :=
  "\x7b" ++ ",".intercalate (members.map fun (k, v) ↦ key k ++ ":" ++ v) ++ "\x7d"

/-- Keys with the texts of their values as an object of the given depth over several lines. -/
def block (depth : Nat) (members : List (String × String)) : String :=
  if members = [] then "\x7b\x7d"
  else
    "\x7b" ++
      ",".intercalate (members.map fun (k, v) ↦ newline (depth + 1) ++ key k ++ ": " ++ v) ++
      newline depth ++ "\x7d"

theorem compactMembers_eq (ms : List (String × CountTree)) :
    compactMembers ms = ",".intercalate (ms.map fun (k, v) ↦ key k ++ ":" ++ v.compact) := by
  induction ms with
  | nil => rfl
  | cons m ms ih =>
    rcases ms with _ | ⟨m', ms⟩
    · rfl
    · rw [compactMembers, ih, List.map_cons, List.map_cons, List.map_cons,
        String.intercalate_cons_cons]
      exact List.cons_ne_nil m' ms

theorem prettyMembers_eq (depth : Nat) (ms : List (String × CountTree)) :
    prettyMembers depth ms =
      ",".intercalate (ms.map fun (k, v) ↦ newline depth ++ key k ++ ": " ++ v.pretty depth) := by
  induction ms with
  | nil => rfl
  | cons m ms ih =>
    rcases ms with _ | ⟨m', ms⟩
    · rfl
    · rw [prettyMembers, ih, List.map_cons, List.map_cons, List.map_cons,
        String.intercalate_cons_cons]
      exact List.cons_ne_nil m' ms

/-- **An object in one line.** -/
theorem compact_object (ms : List (String × CountTree)) :
    (object ms).compact = line (ms.map fun (k, v) ↦ (k, v.compact)) := by
  rw [line, List.map_map]
  rcases ms with _ | ⟨m, ms⟩
  · rfl
  · rw [compact, compactMembers_eq]
    rfl

/-- **An object over several lines.** -/
theorem pretty_object (depth : Nat) (ms : List (String × CountTree)) :
    (object ms).pretty depth = block depth (ms.map fun (k, v) ↦ (k, v.pretty (depth + 1))) := by
  rw [block, List.map_map]
  rcases ms with _ | ⟨m, ms⟩
  · rfl
  · rw [pretty, prettyMembers_eq]
    rfl

end CountTree

namespace Stats

/-- The members of a summary: the counters, and the text of the relations' counts between them. -/
def summaryMembers (s : Stats) (relations : String) : List (String × String) :=
  [("lines_read", toString s.linesRead.toNat),
    ("triples_parsed", toString s.triplesParsed.toNat),
    ("malformed_lines", toString s.malformedLines.toNat),
    ("triples_written", toString s.triplesWritten.toNat),
    ("per_relation", relations),
    ("elapsed_ms", toString s.elapsedMs.toNat)]

/-- The relations with a count, by name, and the texts of the counts. -/
def relationMembers (s : Stats) : List (String × String) :=
  s.relationCounts.map fun (r, n) ↦ (r.name, toString n.toNat)

/-- **A summary in one line.** -/
theorem compactJson_eq (s : Stats) :
    s.compactJson = CountTree.line (s.summaryMembers (CountTree.line s.relationMembers)) := by
  have hrelations : (CountTree.object (s.relationCounts.map fun (r, n) ↦
      (r.name, .number n))).compact = CountTree.line s.relationMembers := by
    rw [CountTree.compact_object, List.map_map]
    rfl
  rw [compactJson, toTree, CountTree.compact_object, summaryMembers, ← hrelations]
  rfl

/-- **A summary over several lines.** -/
theorem prettyJson_eq (s : Stats) :
    s.prettyJson =
      CountTree.block 0 (s.summaryMembers (CountTree.block 1 s.relationMembers)) := by
  have hrelations : (CountTree.object (s.relationCounts.map fun (r, n) ↦
      (r.name, .number n))).pretty 1 = CountTree.block 1 s.relationMembers := by
    rw [CountTree.pretty_object, List.map_map]
    rfl
  rw [prettyJson, toTree, CountTree.pretty_object, summaryMembers, ← hrelations]
  rfl

end Stats

end PersonRelations
