import PersonRelations.Proofs.Extraction.Conservation
import PersonRelations.Proofs.Stats.SummaryText

/-!
# The order of lines

Counting lines in another order gives the same counters. A pass counts line by line, and the first
record of a relation is what makes an entry in the table of counts, so that entries come into being
in another order too; but the pass keeps the equation of `Stats.ofLines`, in which every counter is
the number of lines of a kind, and such a number does not change under a permutation
(`Stats.ofLines_eq_of_perm`). Records follow their lines (`StatementParser.records_perm`).

`extract_permuted` says this of extractions into sinks that refuse nothing, and gives the text of
the summary: the relations with a record, in the order of the table, each with the number of its
records. -/

namespace PersonRelations

/-- The sink takes whatever it is handed. -/
def Sink.TakesAll {σ : Type} [Sink σ] (sink : σ) : Prop :=
  ∀ rs, (Sink.writeAll sink rs).2 = none

theorem MemorySink.takesAll (sink : MemorySink) : Sink.TakesAll sink := by
  intro rs
  rw [writeAll_eq]

section

variable {p : StatementParser} {xs ys lines : List String}

/-- Lines in another order have their records in another order. -/
theorem StatementParser.records_perm (h : xs.Perm ys) : (p.records xs).Perm (p.records ys) :=
  h.filterMap p.record?

theorem StatementParser.recordsOf_perm (h : xs.Perm ys) (r : Relation) :
    (p.recordsOf r xs).Perm (p.recordsOf r ys) :=
  (records_perm h).filter _

namespace Stats

/-- **The counters of lines** do not depend on their order. Tables are compared value by value, so
it makes no difference which relation got its entry first. -/
theorem ofLines_eq_of_perm (h : xs.Perm ys) : ofLines p xs = ofLines p ys := by
  have htable : (ofLines p xs).perRelation = (ofLines p ys).perRelation := by
    refine Relation.Table.ext_get fun r ↦ ?_
    show (Relation.Table.ofFn _).get r = (Relation.Table.ofFn _).get r
    rw [Relation.Table.get_ofFn, Relation.Table.get_ofFn,
      (StatementParser.recordsOf_perm h r).length_eq]
  have hrest : ofLines p xs = { ofLines p ys with perRelation := (ofLines p xs).perRelation } := by
    rw [ofLines, ofLines, h.length_eq, h.countP_eq, h.countP_eq,
      (StatementParser.records_perm h).length_eq]
  rw [hrest, htable]

/-- **The relations with a count** are those with a record, in the order of the table. -/
theorem relationCounts_ofLines (p : StatementParser) (lines : List String) :
    (ofLines p lines).relationCounts =
      (Relation.all.filter fun r ↦ p.recordsOf r lines ≠ []).map
        fun r ↦ (r, .ofNat (p.recordsOf r lines).length) := by
  rw [relationCounts, Relation.Table.toList]
  induction Relation.all with
  | nil => rfl
  | cons r rs ih =>
    have hget : (ofLines p lines).perRelation.get r = countOf (p.recordsOf r lines).length :=
      Relation.Table.get_ofFn _ r
    rw [List.map_cons, List.filterMap_cons, ih, hget, countOf, List.filter_cons]
    by_cases hr : p.recordsOf r lines = []
    · simp [hr]
    · simp [hr]

/-- The texts of these counts. -/
theorem relationMembers_ofLines (h : lines.length < 2 ^ 64) :
    (ofLines p lines).relationMembers =
      (Relation.all.filter fun r ↦ p.recordsOf r lines ≠ []).map
        fun r ↦ (r.name, toString (p.recordsOf r lines).length) := by
  have hnumber : ∀ r, (UInt64.ofNat (p.recordsOf r lines).length).toNat =
      (p.recordsOf r lines).length := by
    intro r
    obtain ⟨-, -, -, -, hwritten⟩ := toNat_counters (p := p) h
    rw [← written_ofLines, hwritten]
  rw [relationMembers, relationCounts_ofLines, List.map_map]
  exact List.map_congr_left fun r _ ↦ by simp only [Function.comp_apply, hnumber]

end Stats

/-- **An extraction into a sink that takes everything** counts all lines and hands over all
records. -/
theorem extract_of_takesAll {σ : Type} [Sink σ] {sink : σ} (hsink : Sink.TakesAll sink)
    (interval : Count) (h : lines.length < 2 ^ 64) :
    (extract p interval sink (lines.map .ok)).result = .ok (Stats.ofLines p lines) ∧
      SinkCall.taken (extractCalls p interval sink (lines.map .ok)) = p.records lines := by
  have hlen : 0 + (LineItem.readable (lines.map .ok)).length < 2 ^ 64 := by
    rwa [LineItem.readable_map, Nat.zero_add]
  obtain ⟨hcount, hend⟩ := LineItem.countable_and_ending_of_lt hlen
  have hgood := LineItem.failure?_append lines []
  rw [List.append_nil] at hgood
  rw [LineItem.readable_map] at hcount
  have hresult : (extract p interval sink (lines.map .ok)).result =
      .ok (Stats.ofLines p lines) := by
    rw [result_extract (hsink _), hend, hgood, hcount]
    rfl
  refine ⟨hresult, ?_⟩
  rw [extractCalls_of_ok hresult, SinkCall.taken_map, LineItem.readable_map]

end

/-- **The order of lines makes no difference to the counters.** Fewer than 2^64 lines and a
permutation of them are extracted from, into sinks that take everything.

* Both extractions end well, with the same counters: every field is the same, and so is the whole
  table of counts.
* So both have the same summary, in one line and over several lines. It has the counters, and the
  relations with a record in the order of the table, each with the number of its records.
* For each relation, the records that the one sink has taken are a permutation of those that the
  other has taken. -/
theorem extract_permuted {σ τ : Type} [Sink σ] [Sink τ] (p : StatementParser) (i j : Count)
    (sink : σ) (sink' : τ) (hsink : Sink.TakesAll sink) (hsink' : Sink.TakesAll sink')
    (xs ys : List String) (hperm : xs.Perm ys) (hlen : xs.length < 2 ^ 64) :
    (∃ stats, (extract p i sink (xs.map .ok)).result = .ok stats ∧
      (extract p j sink' (ys.map .ok)).result = .ok stats ∧
      ∃ present : List (String × String),
        present = ((Relation.all.filter fun r ↦ p.recordsOf r xs ≠ []).map
          fun r ↦ (r.name, toString (p.recordsOf r xs).length)) ∧
        stats.compactJson = CountTree.line (stats.summaryMembers (CountTree.line present)) ∧
        stats.prettyJson = CountTree.block 0 (stats.summaryMembers (CountTree.block 1 present))) ∧
    ∀ r, ((SinkCall.taken (extractCalls p i sink (xs.map .ok))).filter
        fun x ↦ x.relation = r).Perm
      ((SinkCall.taken (extractCalls p j sink' (ys.map .ok))).filter fun x ↦ x.relation = r) := by
  obtain ⟨hx, hxTaken⟩ := extract_of_takesAll (p := p) hsink i hlen
  obtain ⟨hy, hyTaken⟩ := extract_of_takesAll (p := p) hsink' j (hperm.length_eq ▸ hlen)
  rw [← Stats.ofLines_eq_of_perm hperm] at hy
  refine ⟨⟨_, hx, hy, _, rfl, ?_, ?_⟩, fun r ↦ ?_⟩
  · rw [Stats.compactJson_eq, Stats.relationMembers_ofLines hlen]
  · rw [Stats.prettyJson_eq, Stats.relationMembers_ofLines hlen]
  · rw [hxTaken, hyTaken]
    exact StatementParser.recordsOf_perm hperm r

/-- Two mothers before a father, and a line that is no triple. -/
def motherFirstLines : List String :=
  ["<Q1> <P25> <Q2> .", "<Q3> <P25> <Q4> .", "no triple", "<Q1> <P22> <Q5> ."]

/-- The father comes first in the summary, whichever line comes first, and the mothers come in the
order of their lines. -/
theorem extract_permuted_motherFirst :
    motherFirstLines.Perm motherFirstLines.reverse ∧ motherFirstLines.length < 2 ^ 64 ∧
      Sink.TakesAll ({} : MemorySink) ∧
      (∃ stats, (extract default 0 ({} : MemorySink) (motherFirstLines.map .ok)).result =
          .ok stats ∧
        (extract default 2 ({} : MemorySink) (motherFirstLines.reverse.map .ok)).result =
          .ok stats ∧
        stats.compactJson = CountTree.line (stats.summaryMembers
          (CountTree.line [("hasFather", "1"), ("hasMother", "2")]))) ∧
      (SinkCall.taken (extractCalls default 0 ({} : MemorySink)
          (motherFirstLines.map .ok))).length = 3 := by
  have hperm : motherFirstLines.Perm motherFirstLines.reverse := (List.reverse_perm _).symm
  have hlen : motherFirstLines.length < 2 ^ 64 := by decide
  obtain ⟨⟨stats, hx, hy, present, hpresent, hcompact, -⟩, -⟩ := extract_permuted default 0 2
    ({} : MemorySink) ({} : MemorySink) (MemorySink.takesAll _) (MemorySink.takesAll _) _ _
    hperm hlen
  have hboth : present = [("hasFather", "1"), ("hasMother", "2")] := by
    rw [hpresent]
    decide +kernel
  rw [hboth] at hcompact
  exact ⟨hperm, hlen, MemorySink.takesAll _, ⟨stats, hx, hy, hcompact⟩, by decide +kernel⟩

end PersonRelations
