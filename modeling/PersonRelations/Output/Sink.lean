import PersonRelations.Error

/-!
# Sinks

A sink takes the pairs that an extraction finds. `Record` is such a pair with its relation; a
sink's `write` gives the sink after it and the error if there was one. `MemorySink` keeps the
records in the order in which they came and never fails. `FailingSink` is a memory sink that
refuses one write.
-/

namespace PersonRelations

/-- A subject and an object, and the relation between them. -/
structure Record where
  relation : Relation
  subject : String
  object : String
  deriving DecidableEq, Repr

/-- The record as a row of its relation's file, without the line feed. -/
def Record.row (r : Record) : String :=
  r.subject ++ "\t" ++ r.object

/-- What takes the records of an extraction. -/
class Sink (σ : Type) where
  /-- Takes a record, or fails to. -/
  write : σ → Record → σ × Option Error

/-- A sink in memory. -/
structure MemorySink where
  /-- The records taken, in order. -/
  records : Array Record := #[]
  deriving DecidableEq, Repr

namespace MemorySink

instance : Inhabited MemorySink := ⟨{}⟩

/-- Takes a record. -/
def push (s : MemorySink) (r : Record) : MemorySink :=
  ⟨s.records.push r⟩

instance : Sink MemorySink where
  write s r := (s.push r, none)

/-- The rows of one relation, in order. -/
def lines (s : MemorySink) (r : Relation) : List String :=
  (s.records.toList.filter fun x ↦ x.relation = r).map Record.row

end MemorySink

/-- A memory sink whose write number `failAt`, counted from 1, is refused; 0 refuses none. -/
structure FailingSink where
  memory : MemorySink := {}
  /-- The number of writes so far, the refused one included. -/
  writes : Nat := 0
  failAt : Nat
  deriving DecidableEq, Repr

instance : Sink FailingSink where
  write s r :=
    if s.writes + 1 = s.failAt then
      ({ s with writes := s.writes + 1 }, some (.outputWrite r.relation (.other "sink full")))
    else ({ s with memory := s.memory.push r, writes := s.writes + 1 }, none)

end PersonRelations
