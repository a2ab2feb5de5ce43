import Mathlib
import PersonRelations.Extraction
import PersonRelations.Proofs.Stats.Recording

/-!
# What a pass comes to

A pass over lines, said without its loop. Three functions of the lines describe it:

* `StatementParser.records`, the records that the lines make, in order;
* `Stats.ofLines`, the counters: plain counts of the lines by what they are;
* `StatementParser.reports`, what is reported, line by line.

The invariant of the loop is an equation: as long as nothing has failed, the counters are
`Stats.ofLines` of the lines read so far. One step adds one line to it (`Extraction.step_of_none`,
`Extraction.step_of_taken`), or stops at a record that the sink refuses
(`Extraction.step_of_refused`), and a whole pass is then `Extraction.outcome_run`: the sink has
taken the records of the lines that can be counted, up to the first one that it refuses.

No counter runs over as long as fewer than 2^64 lines are read, since no count is larger than the
number of lines. A pass that ends well has shown that itself (`of_extract_eq_ok`).
-/

namespace PersonRelations

/-! ### What lines are -/

namespace StatementParser

variable (p : StatementParser)

/-- Whether the line is a triple. -/
def isTriple (line : String) : Bool :=
  match p.parse line with
  | .triple _ => true
  | .malformed _ => false

/-- The record that the line makes, if it is a triple of a relation. -/
def record? (line : String) : Option Record :=
  match p.parse line with
  | .triple t => t.relation?.map fun r ↦ ⟨r, t.subject, t.object⟩
  | .malformed _ => none

/-- The records that the lines make, in order. -/
def records (lines : List String) : List Record :=
  lines.filterMap p.record?

/-- The records of one relation. -/
def recordsOf (r : Relation) (lines : List String) : List Record :=
  (p.records lines).filter fun x ↦ x.relation = r

theorem length_records_le (lines : List String) : (p.records lines).length ≤ lines.length :=
  List.length_filterMap_le _ _

theorem records_append (xs ys : List String) :
    p.records (xs ++ ys) = p.records xs ++ p.records ys :=
  List.filterMap_append

end StatementParser

/-! ### What items are -/

namespace LineItem

/-- The lines before the first error. -/
def readable : List LineItem → List String
  | .ok line :: items => line :: readable items
  | _ => []

/-- The first error. -/
def failure? : List LineItem → Option Error
  | [] => none
  | .error e :: _ => some e
  | .ok _ :: items => failure? items

theorem readable_append (lines : List String) (items : List LineItem) :
    readable (lines.map .ok ++ items) = lines ++ readable items := by
  induction lines with
  | nil => rfl
  | cons line lines ih => exact congrArg (line :: ·) ih

theorem readable_map (lines : List String) : readable (lines.map .ok) = lines := by
  have h := readable_append lines []
  rw [List.append_nil] at h
  exact h.trans (List.append_nil lines)

theorem failure?_append (lines : List String) (items : List LineItem) :
    failure? (lines.map .ok ++ items) = failure? items := by
  induction lines with
  | nil => rfl
  | cons line lines ih => exact ih

/-- Without an error all items are lines. -/
theorem eq_map_of_failure?_eq_none {items : List LineItem} (h : failure? items = none) :
    items = (readable items).map .ok := by
  induction items with
  | nil => rfl
  | cons item items ih =>
    cases item with
    | error e => cases h
    | ok line => exact congrArg (.ok line :: ·) (ih h)

/-- The readable lines that can be counted behind `n` others. -/
def countable (n : Nat) : List LineItem → List String
  | .ok line :: items => if n + 1 < 2 ^ 64 then line :: countable (n + 1) items else []
  | _ => []

/-- What ends the reading of items behind `n` lines: the first error, or a line too many. -/
def ending (n : Nat) : List LineItem → Option Error
  | [] => none
  | .error e :: _ => some e
  | .ok _ :: items =>
    if n + 1 < 2 ^ 64 then ending (n + 1) items else some (.arithmetic .addOverflow)

theorem countable_prefix (n : Nat) (items : List LineItem) :
    countable n items <+: readable items := by
  induction items generalizing n with
  | nil => exact List.prefix_rfl
  | cons item items ih =>
    cases item with
    | error e => exact List.prefix_rfl
    | ok line =>
      rw [countable, readable]
      split
      · exact (List.prefix_cons_inj line).2 (ih (n + 1))
      · exact List.nil_prefix

/-- Few enough lines are counted before what comes behind them. -/
theorem countable_and_ending_append {n : Nat} {lines : List String} (items : List LineItem)
    (h : n + lines.length < 2 ^ 64) :
    countable n (lines.map .ok ++ items) = lines ++ countable (n + lines.length) items ∧
      ending n (lines.map .ok ++ items) = ending (n + lines.length) items := by
  induction lines generalizing n with
  | nil => exact ⟨rfl, rfl⟩
  | cons line lines ih =>
    rw [List.length_cons] at h
    have hn : n + 1 < 2 ^ 64 := by omega
    obtain ⟨hlines, hend⟩ := ih (n := n + 1) (by omega)
    rw [List.map_cons, List.cons_append, countable, ending, if_pos hn, if_pos hn, hlines, hend,
      List.length_cons, Nat.add_assoc, Nat.add_comm 1]
    exact ⟨rfl, rfl⟩

/-- Few enough lines are all counted, and only an error ends them. -/
theorem countable_and_ending_of_lt {n : Nat} {items : List LineItem}
    (h : n + (readable items).length < 2 ^ 64) :
    countable n items = readable items ∧ ending n items = failure? items := by
  induction items generalizing n with
  | nil => exact ⟨rfl, rfl⟩
  | cons item items ih =>
    cases item with
    | error e => exact ⟨rfl, rfl⟩
    | ok line =>
      rw [readable, List.length_cons] at h
      have hn : n + 1 < 2 ^ 64 := by omega
      obtain ⟨hlines, hend⟩ := ih (n := n + 1) (by omega)
      rw [countable, ending, if_pos hn, if_pos hn, hlines, hend]
      exact ⟨rfl, rfl⟩

/-- Where nothing ends the reading, there were few enough lines and no error. -/
theorem lt_of_ending_eq_none {n : Nat} (hn : n < 2 ^ 64) {items : List LineItem}
    (h : ending n items = none) :
    n + (readable items).length < 2 ^ 64 ∧ failure? items = none := by
  induction items generalizing n with
  | nil => exact ⟨hn, rfl⟩
  | cons item items ih =>
    cases item with
    | error e => cases h
    | ok line =>
      rw [ending] at h
      split at h
      · rename_i hlt
        obtain ⟨hlen, hfail⟩ := ih hlt h
        refine ⟨?_, hfail⟩
        rw [readable, List.length_cons]
        omega
      · cases h

end LineItem

/-! ### Counters of lines -/

namespace Count

theorem toNat_ofNat_of_lt {n : Nat} (h : n < 2 ^ 64) : (UInt64.ofNat n).toNat = n :=
  UInt64.toNat_ofNat_of_lt' h

theorem succ_ofNat {n : Nat} (h : n + 1 < 2 ^ 64) :
    succ (UInt64.ofNat n) = .ok (UInt64.ofNat (n + 1)) := by
  have hn : (UInt64.ofNat n).toNat = n := toNat_ofNat_of_lt (by omega)
  rw [succ, if_pos (by rw [hn]; exact h)]
  congr 1
  exact (UInt64.ofNat_add n 1).symm

theorem succ_ofNat_of_full {n : Nat} (hn : n < 2 ^ 64) (h : ¬n + 1 < 2 ^ 64) :
    succ (UInt64.ofNat n) = .error .addOverflow := by
  rw [succ, toNat_ofNat_of_lt hn]
  exact if_neg h

end Count

namespace Stats

/-- The count of a relation with `n` pairs: there is none before the first pair. -/
def countOf (n : Nat) : Option Count :=
  if n = 0 then none else some (UInt64.ofNat n)

/-- The counters of a pass over the lines. -/
def ofLines (p : StatementParser) (lines : List String) : Stats where
  linesRead := .ofNat lines.length
  triplesParsed := .ofNat (lines.countP p.isTriple)
  malformedLines := .ofNat (lines.countP fun l ↦ !p.isTriple l)
  triplesWritten := .ofNat (p.records lines).length
  perRelation := .ofFn fun r ↦ countOf (p.recordsOf r lines).length

variable {p : StatementParser} {lines : List String} {line : String}

theorem ofLines_nil : ofLines p [] = {} := by
  have h : Relation.Table.ofFn (fun r ↦ countOf (p.recordsOf r []).length) =
      .replicate none := by
    refine Relation.Table.ext_get fun r ↦ ?_
    rw [Relation.Table.get_ofFn, Relation.Table.get_replicate]
    rfl
  rw [ofLines, h]
  rfl

theorem written_ofLines (r : Relation) :
    (ofLines p lines).written r = .ofNat (p.recordsOf r lines).length := by
  rw [written, ofLines, Relation.Table.get_ofFn, countOf]
  split
  · rename_i h
    rw [h]
    rfl
  · rfl

/-- Fewer than 2^64 lines are counted as they are: no count is larger than the number of lines. -/
theorem toNat_counters (h : lines.length < 2 ^ 64) :
    (ofLines p lines).linesRead.toNat = lines.length ∧
      (ofLines p lines).triplesParsed.toNat = lines.countP p.isTriple ∧
      (ofLines p lines).malformedLines.toNat = lines.countP (fun l ↦ !p.isTriple l) ∧
      (ofLines p lines).triplesWritten.toNat = (p.records lines).length ∧
      ∀ r, ((ofLines p lines).written r).toNat = (p.recordsOf r lines).length := by
  have hlt : ∀ n, n ≤ lines.length → (UInt64.ofNat n).toNat = n := by
    intro n hn
    exact Count.toNat_ofNat_of_lt (by omega)
  have hrecords := p.length_records_le lines
  refine ⟨hlt _ (Nat.le_refl _), hlt _ List.countP_le_length, hlt _ List.countP_le_length,
    hlt _ hrecords, fun r ↦ ?_⟩
  have hof : (p.recordsOf r lines).length ≤ (p.records lines).length := List.length_filter_le _ _
  rw [written_ofLines]
  exact hlt _ (by omega)

/-- A line that is no triple. -/
theorem ofLines_malformed {parts : List String} (h : p.parse line = .malformed parts) :
    ofLines p (lines ++ [line]) =
      { ofLines p lines with
        linesRead := .ofNat (lines.length + 1)
        malformedLines := .ofNat (lines.countP (fun l ↦ !p.isTriple l) + 1) } := by
  simp [ofLines, StatementParser.recordsOf, StatementParser.records, StatementParser.record?,
    StatementParser.isTriple, h]

/-- A triple that belongs to no relation. -/
theorem ofLines_unrelated {t : Triple} (h : p.parse line = .triple t) (hr : t.relation? = none) :
    ofLines p (lines ++ [line]) =
      { ofLines p lines with
        linesRead := .ofNat (lines.length + 1)
        triplesParsed := .ofNat (lines.countP p.isTriple + 1) } := by
  simp [ofLines, StatementParser.recordsOf, StatementParser.records, StatementParser.record?,
    StatementParser.isTriple, h, hr]

/-- A triple of a relation. -/
theorem ofLines_related {t : Triple} {r : Relation} (h : p.parse line = .triple t)
    (hr : t.relation? = some r) :
    ofLines p (lines ++ [line]) =
      { ofLines p lines with
        linesRead := .ofNat (lines.length + 1)
        triplesParsed := .ofNat (lines.countP p.isTriple + 1)
        triplesWritten := .ofNat ((p.records lines).length + 1)
        perRelation := (ofLines p lines).perRelation.set r
          (some (.ofNat ((p.recordsOf r lines).length + 1))) } := by
  have hline : p.records (lines ++ [line]) = p.records lines ++ [⟨r, t.subject, t.object⟩] := by
    simp [StatementParser.records, StatementParser.record?, h, hr]
  -- tables are compared value by value: only the relation of the new record has another one
  have htable : (ofLines p (lines ++ [line])).perRelation =
      (ofLines p lines).perRelation.set r
        (some (.ofNat ((p.recordsOf r lines).length + 1))) := by
    refine Relation.Table.ext_get fun s ↦ ?_
    by_cases hs : s = r
    · subst hs
      rw [Relation.Table.get_set_self]
      simp [ofLines, countOf, StatementParser.recordsOf, hline]
    · rw [Relation.Table.get_set_of_ne _ hs]
      simp [ofLines, StatementParser.recordsOf, hline, Ne.symm hs]
  rw [← htable]
  simp [ofLines, hline, StatementParser.isTriple, h]

/-- No remainder by zero is taken, so the multiples of the interval are always known. -/
theorem isProgressDue_eq (s : Stats) (interval : Count) :
    s.isProgressDue interval = .ok (decide (interval ≠ 0 ∧ s.linesRead % interval = 0)) := by
  by_cases h0 : interval = 0
  · simp [isProgressDue, h0]
  · rw [isProgressDue, if_neg h0, Count.rem, if_neg h0]
    by_cases hdue : s.linesRead % interval = 0
    · simp [Except.map, h0, hdue]
    · simp [Except.map, hdue]

/-- What a multiple of the interval reports. -/
def progressReport (interval : Count) (s : Stats) : List Event :=
  if interval ≠ 0 ∧ s.linesRead % interval = 0 then
    [.progress s.linesRead s.triplesWritten s.malformedLines]
  else []

end Stats

namespace StatementParser

variable (p : StatementParser)

/-- What is reported of a line that comes behind others. -/
def report (interval : Count) (before : List String) (line : String) : List Event :=
  (match p.parse line with
    | .triple _ => []
    | .malformed parts => [.malformedLine (.ofNat (before.length + 1)) parts]) ++
  (Stats.ofLines p (before ++ [line])).progressReport interval

/-- What is reported of lines that come behind others. -/
def reports (interval : Count) (before : List String) : List String → List Event
  | [] => []
  | line :: lines => p.report interval before line ++ reports interval (before ++ [line]) lines

end StatementParser

/-! ### One step -/

namespace Extraction

variable {σ : Type} [Sink σ] {p : StatementParser} {interval : Count} {before : List String}
  {line : String} {sink sink' : σ} {events : Array Event}

omit [Sink σ] in
theorem reportProgress_eq (stats : Stats) (sink : σ) (events : Array Event) :
    reportProgress interval ⟨stats, sink, events⟩ =
      (⟨stats, sink, events ++ (stats.progressReport interval).toArray⟩, none) := by
  rw [reportProgress, Stats.isProgressDue_eq, Stats.progressReport]
  by_cases h : interval ≠ 0 ∧ stats.linesRead % interval = 0
  · simp [h]
  · simp [h]

/-- The counters once a line is counted and before it is parsed. -/
def lineCounted (p : StatementParser) (before : List String) : Stats :=
  { Stats.ofLines p before with linesRead := .ofNat (before.length + 1) }

theorem addLine_ofLines (h : before.length + 1 < 2 ^ 64) :
    (Stats.ofLines p before).addLine = .ok (lineCounted p before) := by
  show (Count.succ (UInt64.ofNat before.length)).map _ = _
  rw [Count.succ_ofNat h]
  rfl

theorem addTriple_lineCounted (h : before.length + 1 < 2 ^ 64) :
    (lineCounted p before).addTriple =
      .ok { lineCounted p before with
        triplesParsed := .ofNat (before.countP p.isTriple + 1) } := by
  have hle := List.countP_le_length (p := p.isTriple) (l := before)
  show (Count.succ (UInt64.ofNat (before.countP p.isTriple))).map _ = _
  rw [Count.succ_ofNat (by omega)]
  rfl

theorem addMalformed_lineCounted (h : before.length + 1 < 2 ^ 64) :
    (lineCounted p before).addMalformed =
      .ok { lineCounted p before with
        malformedLines := .ofNat (before.countP (fun l ↦ !p.isTriple l) + 1) } := by
  have hle := List.countP_le_length (p := fun l ↦ !p.isTriple l) (l := before)
  show (Count.succ (UInt64.ofNat (before.countP fun l ↦ !p.isTriple l))).map _ = _
  rw [Count.succ_ofNat (by omega)]
  rfl

theorem take_malformed (h : before.length + 1 < 2 ^ 64) {parts : List String}
    (hline : p.parse line = .malformed parts) :
    take ⟨lineCounted p before, sink, events⟩ (.malformed parts) =
      (⟨Stats.ofLines p (before ++ [line]), sink,
        events.push (.malformedLine (.ofNat (before.length + 1)) parts)⟩, none) := by
  rw [take, addMalformed_lineCounted h, Stats.ofLines_malformed hline]
  rfl

theorem take_unrelated (h : before.length + 1 < 2 ^ 64) {t : Triple}
    (hline : p.parse line = .triple t) (hr : t.relation? = none) :
    take ⟨lineCounted p before, sink, events⟩ (.triple t) =
      (⟨Stats.ofLines p (before ++ [line]), sink, events⟩, none) := by
  rw [take, addTriple_lineCounted h, Stats.ofLines_unrelated hline hr]
  simp only [hr]
  rfl

/-- A record is counted once it is taken. Neither of the two counts runs over: a relation has no
more records than there are lines. -/
theorem take_related (h : before.length + 1 < 2 ^ 64) {t : Triple} {r : Relation}
    (hline : p.parse line = .triple t) (hr : t.relation? = some r)
    (hw : Sink.write sink ⟨r, t.subject, t.object⟩ = (sink', none)) :
    take ⟨lineCounted p before, sink, events⟩ (.triple t) =
      (⟨Stats.ofLines p (before ++ [line]), sink', events⟩, none) := by
  have hall := p.length_records_le before
  have hof : (p.recordsOf r before).length ≤ (p.records before).length :=
    List.length_filter_le _ _
  rw [take, addTriple_lineCounted h]
  simp only [hr]
  rw [write, hw]
  -- the total and the relation's count go up together, and both stay below the number of lines
  have hrecord : ({ lineCounted p before with
      triplesParsed := .ofNat (before.countP p.isTriple + 1) } : Stats).record r =
      (Stats.ofLines p (before ++ [line]), none) := by
    have hwritten : ((Stats.ofLines p before).written r).succ =
        .ok (UInt64.ofNat ((p.recordsOf r before).length + 1)) := by
      rw [Stats.written_ofLines, Count.succ_ofNat (by omega)]
    rw [Stats.ofLines_related hline hr]
    exact Stats.record_of_succ (Count.succ_ofNat (by omega)) hwritten
  simp only [hrecord]
  rfl

/-- **A line without a record** is counted and reported. -/
theorem step_of_none (h : before.length + 1 < 2 ^ 64) (hrec : p.record? line = none) :
    step p interval ⟨Stats.ofLines p before, sink, events⟩ line =
      (⟨Stats.ofLines p (before ++ [line]), sink,
        events ++ (p.report interval before line).toArray⟩, none) := by
  rw [step, addLine_ofLines h, StatementParser.report]
  rw [StatementParser.record?] at hrec
  cases hline : p.parse line with
  | malformed parts =>
    simp only [take_malformed h hline, reportProgress_eq]
    simp
  | triple t =>
    rw [hline] at hrec
    simp only [take_unrelated h hline (Option.map_eq_none_iff.1 hrec), reportProgress_eq]
    simp

/-- A record comes from a triple of its relation. -/
theorem exists_triple_of_record? {r : Record} (h : p.record? line = some r) :
    ∃ t, p.parse line = .triple t ∧ t.relation? = some r.relation ∧
      r = ⟨r.relation, t.subject, t.object⟩ := by
  rw [StatementParser.record?] at h
  cases hline : p.parse line with
  | malformed parts =>
    rw [hline] at h
    cases h
  | triple t =>
    rw [hline] at h
    obtain ⟨s, hs, rfl⟩ := Option.map_eq_some_iff.1 h
    exact ⟨t, rfl, hs, rfl⟩

/-- **A line whose record is taken** is counted and reported. -/
theorem step_of_taken (h : before.length + 1 < 2 ^ 64) {r : Record}
    (hrec : p.record? line = some r) (hw : Sink.write sink r = (sink', none)) :
    step p interval ⟨Stats.ofLines p before, sink, events⟩ line =
      (⟨Stats.ofLines p (before ++ [line]), sink',
        events ++ (p.report interval before line).toArray⟩, none) := by
  obtain ⟨t, hline, hr, heq⟩ := exists_triple_of_record? hrec
  rw [heq] at hw
  rw [step, addLine_ofLines h, StatementParser.report, hline]
  simp only [take_related h hline hr hw, reportProgress_eq]
  simp

theorem take_refused (h : before.length + 1 < 2 ^ 64) {t : Triple} {r : Relation} {e : Error}
    (hr : t.relation? = some r)
    (hw : Sink.write sink ⟨r, t.subject, t.object⟩ = (sink', some e)) :
    ∃ stats, take ⟨lineCounted p before, sink, events⟩ (.triple t) =
      (⟨stats, sink', events⟩, some e) := by
  rw [take, addTriple_lineCounted h]
  simp only [hr, write, hw]
  exact ⟨_, rfl⟩

/-- **A line whose record is refused** ends the pass, and nothing is reported of it. -/
theorem step_of_refused (h : before.length + 1 < 2 ^ 64) {r : Record} {e : Error}
    (hrec : p.record? line = some r) (hw : Sink.write sink r = (sink', some e)) :
    ∃ stats, step p interval ⟨Stats.ofLines p before, sink, events⟩ line =
      (⟨stats, sink', events⟩, some e) := by
  obtain ⟨t, hline, hr, heq⟩ := exists_triple_of_record? hrec
  rw [heq] at hw
  obtain ⟨stats, htake⟩ : ∃ stats, take ⟨lineCounted p before, sink, events⟩ (.triple t) =
      (⟨stats, sink', events⟩, some e) := take_refused h hr hw
  rw [step, addLine_ofLines h, hline]
  simp only [htake]
  exact ⟨stats, rfl⟩

end Extraction

/-! ### A whole pass -/

/-- Hands records to a sink, up to the first one that it refuses. -/
def Sink.writeAll {σ : Type} [Sink σ] (sink : σ) : List Record → σ × Option Error
  | [] => (sink, none)
  | r :: rs =>
    match Sink.write sink r with
    | (sink, some e) => (sink, some e)
    | (sink, none) => writeAll sink rs

namespace Extraction

variable {σ : Type} [Sink σ] {p : StatementParser} {interval : Count} {before : List String}
  {sink sink' : σ} {events : Array Event} {items : List LineItem}

/-- What a pass comes to that goes on behind the lines `before`, has `lines` to count and is then
ended by `stop`: the sink is handed the records of the lines, and if it takes them all, the lines
are counted and reported and the pass ends as `stop` says. -/
structure Outcome (p : StatementParser) (interval : Count) (before : List String) (sink : σ)
    (events : Array Event) (lines : List String) (stop : Option Error)
    (x : Extraction σ × Option Error) : Prop where
  sink_eq : x.1.sink = (Sink.writeAll sink (p.records lines)).1
  error_eq : x.2 = (Sink.writeAll sink (p.records lines)).2.or stop
  stats_eq : (Sink.writeAll sink (p.records lines)).2 = none →
    x.1.stats = Stats.ofLines p (before ++ lines)
  events_eq : (Sink.writeAll sink (p.records lines)).2 = none →
    x.1.events = events ++ (p.reports interval before lines).toArray

theorem Outcome.nil (stop : Option Error) :
    Outcome p interval before sink events [] stop
      (⟨Stats.ofLines p before, sink, events⟩, stop) := by
  constructor <;> simp [StatementParser.records, Sink.writeAll, StatementParser.reports]

/-- A line that was dealt with comes before the rest of the pass. -/
theorem Outcome.cons {line : String} {lines : List String} {stop : Option Error}
    {x : Extraction σ × Option Error}
    (hwrite : Sink.writeAll sink (p.records (line :: lines)) =
      Sink.writeAll sink' (p.records lines))
    (h : Outcome p interval (before ++ [line]) sink'
      (events ++ (p.report interval before line).toArray) lines stop x) :
    Outcome p interval before sink events (line :: lines) stop x where
  sink_eq := by
    rw [hwrite]
    exact h.sink_eq
  error_eq := by
    rw [hwrite]
    exact h.error_eq
  stats_eq := by
    rw [hwrite, ← List.singleton_append, ← List.append_assoc]
    exact h.stats_eq
  events_eq := by
    rw [hwrite, StatementParser.reports, ← List.append_toArray, ← Array.append_assoc]
    exact h.events_eq

/-- **A whole pass.** -/
theorem outcome_run (items : List LineItem) (hbefore : before.length < 2 ^ 64) :
    Outcome p interval before sink events (LineItem.countable before.length items)
      (LineItem.ending before.length items)
      (run p interval ⟨Stats.ofLines p before, sink, events⟩ items) := by
  induction items generalizing before sink events with
  | nil => exact Outcome.nil none
  | cons item items ih =>
    cases item with
    | error e => exact Outcome.nil (some e)
    | ok line =>
      rw [run, LineItem.countable, LineItem.ending]
      by_cases hlen : before.length + 1 < 2 ^ 64
      · have hnext : (before ++ [line]).length = before.length + 1 := List.length_append
        have hrest : ∀ sink' : σ, Outcome p interval (before ++ [line]) sink'
            (events ++ (p.report interval before line).toArray)
            (LineItem.countable (before.length + 1) items)
            (LineItem.ending (before.length + 1) items)
            (run p interval ⟨Stats.ofLines p (before ++ [line]), sink',
              events ++ (p.report interval before line).toArray⟩ items) := by
          intro sink'
          rw [← hnext]
          exact ih (hnext ▸ hlen)
        rw [if_pos hlen, if_pos hlen]
        cases hrec : p.record? line with
        | none =>
          rw [step_of_none hlen hrec]
          refine Outcome.cons ?_ (hrest sink)
          rw [StatementParser.records, List.filterMap_cons_none hrec]
          rfl
        | some r =>
          have hrecords : ∀ lines, p.records (line :: lines) = r :: p.records lines :=
            fun _ ↦ List.filterMap_cons_some hrec
          rcases hw : Sink.write sink r with ⟨sink', _ | e⟩
          · rw [step_of_taken hlen hrec hw]
            refine Outcome.cons ?_ (hrest sink')
            rw [hrecords, Sink.writeAll, hw]
          · -- a refused record: its line is counted, but nothing behind it is looked at
            obtain ⟨stats, hstep⟩ : ∃ stats, step p interval ⟨Stats.ofLines p before, sink, events⟩
                line = (⟨stats, sink', events⟩, some e) := step_of_refused hlen hrec hw
            rw [hstep]
            constructor <;> simp [hrecords, Sink.writeAll, hw]
      · -- the counter of lines is full, so the line is not even parsed
        have hfull : (Stats.ofLines p before).addLine = .error .addOverflow := by
          show (Count.succ (UInt64.ofNat before.length)).map _ = _
          rw [Count.succ_ofNat_of_full hbefore hlen]
          rfl
        rw [step, hfull, if_neg hlen, if_neg hlen]
        exact Outcome.nil (some (.arithmetic .addOverflow))

end Extraction

/-! ### Extraction into a sink -/

section Extract

variable {σ : Type} [Sink σ] {p : StatementParser} {interval : Count} {sink : σ}
  {items : List LineItem}

theorem outcome_extract (p : StatementParser) (interval : Count) (sink : σ)
    (items : List LineItem) :
    Extraction.Outcome p interval [] sink #[] (LineItem.countable 0 items)
      (LineItem.ending 0 items) (Extraction.run p interval ⟨{}, sink, #[]⟩ items) := by
  rw [← Stats.ofLines_nil (p := p)]
  exact Extraction.outcome_run items (by decide)

/-- The sink is handed the records of the lines that can be counted. -/
theorem sink_extract : (extract p interval sink items).sink =
    (Sink.writeAll sink (p.records (LineItem.countable 0 items))).1 :=
  (outcome_extract p interval sink items).sink_eq

/-- If the sink takes them all, what ends the reading ends the extraction. -/
theorem result_extract
    (h : (Sink.writeAll sink (p.records (LineItem.countable 0 items))).2 = none) :
    (extract p interval sink items).result =
      match LineItem.ending 0 items with
      | none => .ok (Stats.ofLines p (LineItem.countable 0 items))
      | some e => .error e := by
  have hout := outcome_extract p interval sink items
  show Extraction.result _ _ = _
  rw [hout.error_eq, h, Option.none_or]
  cases LineItem.ending 0 items with
  | none => exact congrArg Except.ok (hout.stats_eq h)
  | some e => rfl

/-- An extraction that ends well has counted every line, met no error, and handed over every
record. -/
theorem of_extract_eq_ok {stats : Stats} (h : (extract p interval sink items).result = .ok stats) :
    (LineItem.readable items).length < 2 ^ 64 ∧ items = (LineItem.readable items).map .ok ∧
      stats = Stats.ofLines p (LineItem.readable items) ∧
      (extract p interval sink items).sink =
        (Sink.writeAll sink (p.records (LineItem.readable items))).1 := by
  have hout := outcome_extract p interval sink items
  have hend : (Extraction.run p interval ⟨{}, sink, #[]⟩ items).2 = none := by
    cases he : (Extraction.run p interval ⟨{}, sink, #[]⟩ items).2 with
    | none => rfl
    | some e =>
      change Extraction.result _ _ = _ at h
      rw [he] at h
      cases h
  -- so neither the sink nor the reading had an error
  obtain ⟨hwrite, hstop⟩ := Option.or_eq_none_iff.1 (hout.error_eq.symm.trans hend)
  obtain ⟨hlen, hfail⟩ := LineItem.lt_of_ending_eq_none (by decide) hstop
  have hall : LineItem.countable 0 items = LineItem.readable items :=
    (LineItem.countable_and_ending_of_lt hlen).1
  rw [Nat.zero_add] at hlen
  rw [result_extract hwrite, hstop, hall] at h
  refine ⟨hlen, LineItem.eq_map_of_failure?_eq_none hfail, (Except.ok.inj h).symm, ?_⟩
  rw [sink_extract, hall]

end Extract

/-- A sink in memory takes every record. -/
theorem MemorySink.writeAll_eq (sink : MemorySink) (rs : List Record) :
    Sink.writeAll sink rs = (⟨sink.records ++ rs.toArray⟩, none) := by
  induction rs generalizing sink with
  | nil => simp [Sink.writeAll]
  | cons r rs ih =>
    show Sink.writeAll (sink.push r) rs = _
    rw [ih]
    simp [MemorySink.push]

/-- What an extraction leaves in memory. -/
theorem records_extract (p : StatementParser) (interval : Count) (items : List LineItem) :
    (extract p interval ({} : MemorySink) items).sink.records.toList =
      p.records (LineItem.countable 0 items) := by
  rw [sink_extract, MemorySink.writeAll_eq]
  simp

end PersonRelations
