import PersonRelations.Proofs.Extraction.Conservation

/-!
# What an extraction reports

An extraction reports malformed lines and, at every multiple of its interval, how far it has got.
The counters it reports are sampled in the middle of the pass, and the pass can be ended by an item
that is an error or by a sink that refuses a record. This module says what is reported without
counters and without a pass.

* `CompletedLines`: the lines that are dealt with to their end. What comes behind them, if anything,
  is an error or a line whose record the sink refuses.
* `StatementParser.diagnostics`: what is shown of such lines, line by line, each count taken anew
  from the lines up to there.

An extraction reports just that (`diagnostics_of_extract`): nothing of the item that ends it, and
nothing of what comes behind it. The interval decides about the reports of progress and about
nothing else, since neither the result nor the calls to the sink are functions of it. -/

namespace PersonRelations

/-! ### Events as they are shown -/

/-- What is shown of an event: its level, its message and its fields. -/
structure ShownEvent where
  level : Level
  message : String
  fields : List (String × FieldValue)
  deriving DecidableEq, Repr

namespace ShownEvent

/-- The warning about a line that is no triple. -/
def malformed (line : Nat) (parts : List String) : ShownEvent where
  level := .warn
  message := "Skipping malformed triple line"
  fields := [("line", .number (.ofNat line)), ("parts", .texts parts)]

/-- How far an extraction has got. -/
def progress (lines written malformed : Nat) : ShownEvent where
  level := .info
  message := "Extraction progress"
  fields := [("lines", .number (.ofNat lines)), ("written", .number (.ofNat written)),
    ("malformed", .number (.ofNat malformed))]

end ShownEvent

namespace Event

/-- What is shown of the event. -/
def shown (e : Event) : ShownEvent :=
  ⟨e.level, e.message, e.fields⟩

/-- Whether the event is a warning. -/
def isWarning (e : Event) : Bool :=
  e.level = .warn

end Event

namespace StatementParser

variable (p : StatementParser) (interval : Count)

/-- What is shown of the line that has the number `i` among the lines: the warning if it is no
triple, and then the progress if `i` is a multiple of the interval. -/
def diagnosticsAt (lines : List String) (line : String) (i : Nat) : List ShownEvent :=
  (match p.parse line with
    | .triple _ => []
    | .malformed parts => [.malformed i parts]) ++
  if 0 < interval.toNat ∧ interval.toNat ∣ i then
    [.progress i (p.records (lines.take i)).length
      ((lines.take i).countP fun l ↦ !p.isTriple l)]
  else []

/-- What is shown of lines, which are numbered from 1. -/
def diagnostics (lines : List String) : List ShownEvent :=
  (lines.zipIdx 1).flatMap fun (line, i) ↦ p.diagnosticsAt interval lines line i

variable {p interval}

/-- The counters at line `n` are reported if `n` is a multiple of the interval. -/
theorem shown_progressReport {lines : List String} (h : lines.length < 2 ^ 64) :
    ((Stats.ofLines p lines).progressReport interval).map Event.shown =
      if 0 < interval.toNat ∧ interval.toNat ∣ lines.length then
        [.progress lines.length (p.records lines).length (lines.countP fun l ↦ !p.isTriple l)]
      else [] := by
  have hzero : interval ≠ 0 ↔ 0 < interval.toNat := by
    rw [Nat.pos_iff_ne_zero, Ne, Ne, ← UInt64.toNat_inj]
    rfl
  have hdue : (Stats.ofLines p lines).linesRead % interval = 0 ↔ interval.toNat ∣ lines.length := by
    rw [← UInt64.toNat_inj, UInt64.toNat_mod, Nat.dvd_iff_mod_eq_zero]
    show (UInt64.ofNat lines.length).toNat % _ = 0 ↔ _
    rw [Count.toNat_ofNat_of_lt h]
  rw [Stats.progressReport]
  by_cases hboth : interval ≠ 0 ∧ (Stats.ofLines p lines).linesRead % interval = 0
  · rw [if_pos hboth, if_pos ⟨hzero.1 hboth.1, hdue.1 hboth.2⟩]
    rfl
  · rw [if_neg hboth, if_neg fun h ↦ hboth ⟨hzero.2 h.1, hdue.2 h.2⟩]
    rfl

/-- **What is reported of one line** is what is shown of it among all lines. -/
theorem shown_report {before : List String} {line : String} (later : List String)
    (h : before.length + 1 < 2 ^ 64) :
    (p.report interval before line).map Event.shown =
      p.diagnosticsAt interval (before ++ line :: later) line (before.length + 1) := by
  have htake : (before ++ line :: later).take (before.length + 1) = before ++ [line] := by
    rw [← List.singleton_append, ← List.append_assoc]
    exact List.take_left' (by simp)
  have hlen : (before ++ [line]).length = before.length + 1 := List.length_append
  rw [report, diagnosticsAt, htake, List.map_append, shown_progressReport (by rwa [hlen]), hlen]
  congr 1
  cases p.parse line with
  | triple t => rfl
  | malformed parts => rfl

/-- **What is reported of lines**, whatever lines came before. -/
theorem shown_reports {before lines : List String} (h : before.length + lines.length < 2 ^ 64) :
    (p.reports interval before lines).map Event.shown =
      (lines.zipIdx (before.length + 1)).flatMap fun (line, i) ↦
        p.diagnosticsAt interval (before ++ lines) line i := by
  induction lines generalizing before with
  | nil => rfl
  | cons line lines ih =>
    rw [List.length_cons] at h
    have hnext : (before ++ [line]).length = before.length + 1 := List.length_append
    have hrest := @ih (before ++ [line]) (by omega)
    rw [hnext, List.append_assoc, List.singleton_append] at hrest
    rw [reports, List.map_append, shown_report lines (by omega), hrest]
    rfl

/-- The warnings about lines are the same for every interval. -/
theorem filter_isWarning_reports (i j : Count) (before lines : List String) :
    (p.reports i before lines).filter Event.isWarning =
      (p.reports j before lines).filter Event.isWarning := by
  have hprogress : ∀ (k : Count) (s : Stats), (s.progressReport k).filter Event.isWarning = [] := by
    intro k s
    rw [Stats.progressReport]
    split <;> rfl
  induction lines generalizing before with
  | nil => rfl
  | cons line lines ih =>
    rw [reports, reports, List.filter_append, List.filter_append, report, report,
      List.filter_append, List.filter_append, hprogress, hprogress, ih]

end StatementParser

/-! ### Lines that are dealt with -/

section

variable {σ : Type} [Sink σ] {p : StatementParser} {interval : Count} {sink : σ}
  {items rest : List LineItem} {lines : List String}

/-- The lines are those of the items that an extraction deals with to their end: it stops behind the
last item, at an error, or at a line whose record the sink refuses, having taken the records of the
lines before. -/
structure CompletedLines (p : StatementParser) (sink : σ) (items : List LineItem)
    (lines : List String) (rest : List LineItem) : Prop where
  items_eq : items = lines.map .ok ++ rest
  taken : (Sink.writeAll sink (p.records lines)).2 = none
  stops : rest = [] ∨ (∃ e later, rest = .error e :: later) ∨
    ∃ line r later, rest = .ok line :: later ∧ p.record? line = some r ∧
      (Sink.write (Sink.writeEach sink (p.records lines)) r).2 ≠ none

/-- A line that is dealt with comes before the others. -/
theorem CompletedLines.cons {sink' : σ} {line : String}
    (hall : Sink.writeAll sink (p.records (line :: lines)) =
      Sink.writeAll sink' (p.records lines))
    (h : CompletedLines p sink' items lines rest) :
    CompletedLines p sink (.ok line :: items) (line :: lines) rest where
  items_eq := congrArg (.ok line :: ·) h.items_eq
  taken := by
    rw [hall]
    exact h.taken
  stops := by
    have htaken := h.taken
    rw [← hall] at htaken
    -- both ways to hand the records over leave the same sink
    have heach : Sink.writeEach sink' (p.records lines) =
        Sink.writeEach sink (p.records (line :: lines)) := by
      have hboth := Sink.writeAll_of_none htaken
      rw [hall, Sink.writeAll_of_none h.taken] at hboth
      exact congrArg Prod.fst hboth
    rw [← heach]
    exact h.stops

/-- **Every extraction stops somewhere.** -/
theorem exists_completedLines (p : StatementParser) (sink : σ) (items : List LineItem) :
    ∃ lines rest, CompletedLines p sink items lines rest := by
  induction items generalizing sink with
  | nil => exact ⟨[], [], rfl, rfl, Or.inl rfl⟩
  | cons item items ih =>
    rcases item with e | line
    · exact ⟨[], _, rfl, rfl, Or.inr (Or.inl ⟨e, items, rfl⟩)⟩
    rcases hrec : p.record? line with _ | r
    · obtain ⟨lines, rest, h⟩ := ih sink
      refine ⟨line :: lines, rest, h.cons ?_⟩
      rw [StatementParser.records, List.filterMap_cons_none hrec, StatementParser.records]
    rcases hw : Sink.write sink r with ⟨sink', _ | e⟩
    · obtain ⟨lines, rest, h⟩ := ih sink'
      refine ⟨line :: lines, rest, h.cons ?_⟩
      rw [StatementParser.records, List.filterMap_cons_some hrec, Sink.writeAll, hw,
        StatementParser.records]
    · refine ⟨[], _, rfl, rfl, Or.inr (Or.inr ⟨line, r, items, rfl, hrec, ?_⟩)⟩
      show (Sink.write sink r).2 ≠ none
      rw [hw]
      exact Option.some_ne_none e

/-- The completed lines are among those that can be read. -/
theorem CompletedLines.length_le (h : CompletedLines p sink items lines rest) :
    lines.length + (LineItem.readable rest).length = (LineItem.readable items).length := by
  rw [h.items_eq, LineItem.readable_append, List.length_append]

/-! ### What is reported -/

/-- A pass goes on behind lines that ended without an error. -/
theorem Extraction.run_append_of_none {x : Extraction σ} {items : List LineItem}
    (h : (run p interval x items).2 = none) (later : List LineItem) :
    run p interval x (items ++ later) = run p interval (run p interval x items).1 later := by
  induction items generalizing x with
  | nil => rfl
  | cons item items ih =>
    rcases item with e | line
    · cases h
    rw [run] at h
    rw [List.cons_append, run, run]
    rcases hstep : x.step p interval line with ⟨y, _ | e⟩
    · rw [hstep] at h
      exact ih h
    · rw [hstep] at h
      cases h

/-- A pass over lines whose records are all taken has counted and reported them. -/
theorem Extraction.run_of_taken (hlen : lines.length < 2 ^ 64)
    (htaken : (Sink.writeAll sink (p.records lines)).2 = none) :
    run p interval ⟨{}, sink, #[]⟩ (lines.map .ok) =
      (⟨Stats.ofLines p lines, Sink.writeEach sink (p.records lines),
        (p.reports interval [] lines).toArray⟩, none) := by
  have hlen' : 0 + (LineItem.readable (lines.map .ok)).length < 2 ^ 64 := by
    rwa [LineItem.readable_map, Nat.zero_add]
  obtain ⟨hcount, hend⟩ := LineItem.countable_and_ending_of_lt hlen'
  rw [LineItem.readable_map] at hcount
  have hgood := LineItem.failure?_append lines []
  rw [List.append_nil] at hgood
  have hout := outcome_extract p interval sink (lines.map .ok)
  rw [hcount, hend, hgood] at hout
  -- the three parts of the state and the error are known one by one
  obtain ⟨hsink, herror, hstats, hevents⟩ := hout
  rcases hrun : run p interval ⟨{}, sink, #[]⟩ (lines.map .ok) with ⟨⟨stats, sink', events⟩, e⟩
  rw [hrun, Sink.writeAll_of_none htaken] at hsink herror
  rw [hrun] at hstats hevents
  obtain rfl : stats = Stats.ofLines p lines := hstats htaken
  obtain rfl : sink' = Sink.writeEach sink (p.records lines) := hsink
  obtain rfl : events = (p.reports interval [] lines).toArray := by
    simpa using hevents htaken
  obtain rfl : e = none := herror
  rfl

/-- **What an extraction reports** are the reports of the lines that it deals with to their end. -/
theorem CompletedLines.events_eq (h : CompletedLines p sink items lines rest)
    (hlen : (LineItem.readable items).length < 2 ^ 64) (interval : Count) :
    (extract p interval sink items).events = p.reports interval [] lines := by
  have hle := h.length_le
  have hrun : Extraction.run p interval ⟨{}, sink, #[]⟩ (lines.map .ok) = _ :=
    Extraction.run_of_taken (by omega) h.taken
  have hall := Extraction.run_append_of_none (congrArg Prod.snd hrun) rest
  rw [hrun, ← h.items_eq] at hall
  show (Extraction.run p interval ⟨{}, sink, #[]⟩ items).1.events.toList = _
  rw [hall]
  rcases h.stops with rfl | ⟨e, later, rfl⟩ | ⟨line, r, later, rfl, hrec, hrefused⟩
  · rfl
  · rfl
  · -- the refused line is counted, so there has to be room for it
    have hroom : lines.length + 1 < 2 ^ 64 := by
      rw [LineItem.readable, List.length_cons] at hle
      omega
    obtain ⟨e, he⟩ := Option.ne_none_iff_exists'.1 hrefused
    obtain ⟨stats, hstep⟩ : ∃ stats, Extraction.step p interval
        ⟨Stats.ofLines p lines, Sink.writeEach sink (p.records lines),
          (p.reports interval [] lines).toArray⟩ line =
        (⟨stats, (Sink.write (Sink.writeEach sink (p.records lines)) r).1,
          (p.reports interval [] lines).toArray⟩, some e) :=
      Extraction.step_of_refused hroom hrec (Prod.ext rfl he)
    rw [Extraction.run, hstep]

/-- **What ends an extraction** is the first refusal, or else what ends the reading. -/
theorem result_extract_eq (p : StatementParser) (interval : Count) (sink : σ)
    (items : List LineItem) :
    (extract p interval sink items).result =
      match (Sink.writeAll sink (p.records (LineItem.countable 0 items))).2.or
        (LineItem.ending 0 items) with
      | none => .ok (Stats.ofLines p (LineItem.countable 0 items))
      | some e => .error e := by
  have hout := outcome_extract p interval sink items
  show Extraction.result _ _ = _
  rw [hout.error_eq]
  rcases hend : (Sink.writeAll sink (p.records (LineItem.countable 0 items))).2.or
    (LineItem.ending 0 items) with _ | e
  · exact congrArg Except.ok (hout.stats_eq (Option.or_eq_none_iff.1 hend).1)
  · rfl

/-- An extraction that ends well has dealt with all lines. -/
theorem completedLines_of_ok {stats : Stats}
    (h : (extract p interval sink items).result = .ok stats) :
    CompletedLines p sink items (LineItem.readable items) [] := by
  obtain ⟨hlen, hitems, -⟩ := of_extract_eq_ok h
  have hlt : 0 + (LineItem.readable items).length < 2 ^ 64 := by rwa [Nat.zero_add]
  obtain ⟨hcount, -⟩ := LineItem.countable_and_ending_of_lt hlt
  refine ⟨by rwa [List.append_nil], ?_, Or.inl rfl⟩
  rw [result_extract_eq, hcount] at h
  rcases hwrite : (Sink.writeAll sink (p.records (LineItem.readable items))).2 with _ | e
  · rfl
  · rw [hwrite] at h
    cases h

end

/-- **The diagnostics of an extraction** from fewer than 2^64 items, into any sink.

* The extraction deals with some lines to their end and then stops: there is nothing more, or an
  error, or a line whose record the sink refuses. What it reports is shown as the diagnostics of
  these lines: of each line in its turn, the warning if it is malformed, with its number and its
  parts, and the progress at every multiple of the interval, with the numbers of lines, of records
  and of malformed lines up to there. Of what it stops at, nothing is reported.
* The interval makes no difference to the result, to the sink and the calls that are made to it, and
  to the warnings. -/
theorem diagnostics_of_extract {σ : Type} [Sink σ] (p : StatementParser) (sink : σ)
    (items : List LineItem) (hlen : items.length < 2 ^ 64) :
    (∃ lines rest, CompletedLines p sink items lines rest) ∧
    (∀ lines rest, CompletedLines p sink items lines rest → ∀ interval,
      (extract p interval sink items).events.map Event.shown = p.diagnostics interval lines) ∧
    ∀ i j : Count,
      (extract p i sink items).result = (extract p j sink items).result ∧
      (extract p i sink items).sink = (extract p j sink items).sink ∧
      extractCalls p i sink items = extractCalls p j sink items ∧
      (extract p i sink items).events.filter Event.isWarning =
        (extract p j sink items).events.filter Event.isWarning := by
  have hread : (LineItem.readable items).length < 2 ^ 64 :=
    Nat.lt_of_le_of_lt (LineItem.length_readable_le items) hlen
  refine ⟨exists_completedLines p sink items, fun lines rest h interval ↦ ?_, fun i j ↦ ?_⟩
  · have hle := h.length_le
    have hshown : (p.reports interval [] lines).map Event.shown = p.diagnostics interval lines :=
      StatementParser.shown_reports (by rw [List.length_nil]; omega)
    rw [h.events_eq hread, hshown]
  · obtain ⟨lines, rest, h⟩ := exists_completedLines p sink items
    refine ⟨?_, ?_, ?_, ?_⟩
    · rw [result_extract_eq, result_extract_eq]
    · rw [sink_extract, sink_extract]
    · rw [extractCalls, extractCalls, sink_extract, sink_extract]
    · rw [h.events_eq hread, h.events_eq hread, StatementParser.filter_isWarning_reports]

/-- A line that is no triple, two lines with records, and one that is not reached. -/
def refusedItems : List LineItem :=
  [.ok "no triple", .ok "<Q1> <P22> <Q2> .", .ok "<Q3> <P25> <Q4> .", .ok ""]

/-- The second record is refused, so nothing is reported behind the second line. -/
theorem diagnostics_of_extract_refused :
    refusedItems.length < 2 ^ 64 ∧
      CompletedLines default ({ failAt := 2 } : FailingSink) refusedItems
        ["no triple", "<Q1> <P22> <Q2> ."] [.ok "<Q3> <P25> <Q4> .", .ok ""] ∧
      (extract default 1 ({ failAt := 2 } : FailingSink) refusedItems).events.map Event.shown =
        [.malformed 1 ["no", "triple"], .progress 1 0 1, .progress 2 1 1] ∧
      (extract default 0 ({ failAt := 2 } : FailingSink) refusedItems).events.map Event.shown =
        [.malformed 1 ["no", "triple"]] ∧
      (extract default 0 ({ failAt := 2 } : FailingSink) refusedItems).result =
        (extract default 1 ({ failAt := 2 } : FailingSink) refusedItems).result := by
  have hlen : refusedItems.length < 2 ^ 64 := by decide
  have hrecord : (default : StatementParser).record? "<Q3> <P25> <Q4> ." =
      some ⟨.hasMother, "Q3", "Q4"⟩ := by decide +kernel
  have hcompleted : CompletedLines default ({ failAt := 2 } : FailingSink) refusedItems
      ["no triple", "<Q1> <P22> <Q2> ."] [.ok "<Q3> <P25> <Q4> .", .ok ""] :=
    ⟨rfl, by decide +kernel, Or.inr (Or.inr ⟨_, _, _, rfl, hrecord, by decide +kernel⟩)⟩
  obtain ⟨-, hevents, hsame⟩ :=
    diagnostics_of_extract default ({ failAt := 2 } : FailingSink) refusedItems hlen
  refine ⟨hlen, hcompleted, ?_, ?_, (hsame 0 1).1⟩
  · rw [hevents _ _ hcompleted]
    decide +kernel
  · rw [hevents _ _ hcompleted]
    decide +kernel

end PersonRelations
