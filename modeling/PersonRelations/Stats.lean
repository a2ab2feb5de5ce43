import PersonRelations.Error
import PersonRelations.Relation.Table

/-!
# Statistics of an extraction

Counters of 64 bits. A count that would pass 2^64 - 1 is an error and not a wrapped number, and so
are a negative difference and a remainder by zero; `Stats.record` counts a written pair in two
places and fails at the first one that is full, keeping what was counted before.

A relation is present in `perRelation` once a pair was recorded for it; the table's order is that
of the relations, whatever the order of recording.
-/

namespace PersonRelations

/-- A count of lines, triples or pairs. -/
abbrev Count := UInt64

namespace Count

/-- The count plus one, if it fits. -/
def succ (n : Count) : Except ArithmeticError Count :=
  if n.toNat + 1 < UInt64.size then .ok (n + 1) else .error .addOverflow

/-- The difference of two counts, if it is not negative. -/
def sub (m n : Count) : Except ArithmeticError Count :=
  if n.toNat ≤ m.toNat then .ok (m - n) else .error .subOverflow

/-- The remainder of two counts, if the second is not zero. -/
def rem (m n : Count) : Except ArithmeticError Count :=
  if n = 0 then .error .remainderByZero else .ok (m % n)

theorem toNat_of_succ_eq {n m : Count} (h : succ n = .ok m) : m.toNat = n.toNat + 1 := by
  unfold succ at h
  split at h
  · cases h
    rw [UInt64.toNat_add]
    exact Nat.mod_eq_of_lt ‹n.toNat + 1 < UInt64.size›
  · cases h

theorem toNat_of_sub_eq {m n k : Count} (h : sub m n = .ok k) : k.toNat = m.toNat - n.toNat := by
  unfold sub at h
  split at h
  · cases h
    exact UInt64.toNat_sub_of_le _ _ (UInt64.le_iff_toNat_le.2 ‹_›)
  · cases h

end Count

/-- The counters of one extraction. -/
structure Stats where
  /-- Lines read. -/
  linesRead : Count := 0
  /-- Lines that were triples. -/
  triplesParsed : Count := 0
  /-- Lines that were not. -/
  malformedLines : Count := 0
  /-- Pairs written, over all relations. -/
  triplesWritten : Count := 0
  /-- Pairs written for each relation that has had any. -/
  perRelation : Relation.Table (Option Count) := .replicate none
  /-- Duration of the run in milliseconds. -/
  elapsedMs : Count := 0
  deriving DecidableEq, Repr

namespace Stats

instance : Inhabited Stats := ⟨{}⟩

/-- The number of pairs written for a relation. -/
def written (s : Stats) (r : Relation) : Count :=
  (s.perRelation.get r).getD 0

/-- Counts one pair written for a relation: first among all pairs, then among the relation's.
Gives the counters as far as they were changed, and the overflow if there was one. -/
def record (s : Stats) (r : Relation) : Stats × Option ArithmeticError :=
  match s.triplesWritten.succ with
  | .error e => (s, some e)
  | .ok total =>
    match (s.written r).succ with
    | .error e => ({ s with triplesWritten := total }, some e)
    | .ok n => ({ s with triplesWritten := total, perRelation := s.perRelation.set r (some n) }, none)

/-- The number of triples that belong to no relation. -/
def discarded (s : Stats) : Except ArithmeticError Count :=
  s.triplesParsed.sub s.triplesWritten

/-- The relations with a count, in table order. -/
def relationCounts (s : Stats) : List (Relation × Count) :=
  s.perRelation.toList.filterMap fun (r, n?) ↦ n?.map fun n ↦ (r, n)

end Stats

end PersonRelations
