import PersonRelations.Proofs.Extraction.Pass

/-!
# The calls of an extraction

What an extraction hands to its sink and what the sink answers, for a sink of any kind. A
`TracedSink` notes the calls that are made to it and leaves the work to another sink; an extraction
cannot tell the two apart (`extract_traced`), so what the traced one notes (`extractCalls`) are the
calls that are made to the other.

* `Sink.Simulates` and `extract_of_simulates`: if one sink is seen through a function as another
  one, so are extractions into them, step by step.
* `Sink.writeAll_cases`: records are handed over one by one, all of them or up to the first that is
  refused. `Sink.writeEach` is the sink after calls whatever it answered.
* `extractCalls_cases`: the calls are those for the records of the lines that can be counted, and
  only the last one can have been refused.
-/

namespace PersonRelations

/-! ### One call after the other -/

namespace Sink

variable {σ : Type} [Sink σ]

/-- The sink after calls for the records, whatever it answered. -/
def writeEach (sink : σ) (rs : List Record) : σ :=
  rs.foldl (fun s r ↦ (Sink.write s r).1) sink

theorem writeEach_append (sink : σ) (xs ys : List Record) :
    writeEach sink (xs ++ ys) = writeEach (writeEach sink xs) ys :=
  List.foldl_append

theorem writeEach_concat (sink : σ) (rs : List Record) (r : Record) :
    writeEach sink (rs ++ [r]) = (Sink.write (writeEach sink rs) r).1 :=
  writeEach_append sink rs [r]

/-- **Two ways to hand records over**: the sink takes them all, or those before the first that it
refuses. -/
theorem writeAll_cases (sink : σ) (rs : List Record) :
    writeAll sink rs = (writeEach sink rs, none) ∨
      ∃ before r after e, rs = before ++ r :: after ∧
        writeAll sink before = (writeEach sink before, none) ∧
        (Sink.write (writeEach sink before) r).2 = some e ∧
        writeAll sink rs = (writeEach sink (before ++ [r]), some e) := by
  induction rs generalizing sink with
  | nil => exact Or.inl rfl
  | cons r rs ih =>
    rcases hw : Sink.write sink r with ⟨next, _ | e⟩
    · have hall : ∀ xs, writeAll sink (r :: xs) = writeAll next xs := by
        intro xs
        rw [writeAll, hw]
      have heach : ∀ xs, writeEach sink (r :: xs) = writeEach next xs := by
        intro xs
        rw [writeEach, List.foldl_cons, hw, writeEach]
      rcases ih next with hnext | ⟨before, x, after, e, rfl, hbefore, he, hnext⟩
      · refine Or.inl ?_
        rw [hall, heach, hnext]
      · refine Or.inr ⟨r :: before, x, after, e, rfl, ?_, ?_, ?_⟩
        · rw [hall, heach, hbefore]
        · rw [heach, he]
        · rw [hall, hnext, List.cons_append, heach]
    · refine Or.inr ⟨[], r, rs, e, rfl, rfl, ?_, ?_⟩
      · show (Sink.write sink r).2 = some e
        rw [hw]
      · show writeAll sink (r :: rs) = ((Sink.write sink r).1, some e)
        rw [writeAll, hw]

/-- If nothing is refused, the sink has taken all records. -/
theorem writeAll_of_none {sink : σ} {rs : List Record} (h : (writeAll sink rs).2 = none) :
    writeAll sink rs = (writeEach sink rs, none) := by
  rcases writeAll_cases sink rs with hall | ⟨before, r, after, e, -, -, -, hrefused⟩
  · exact hall
  · rw [hrefused] at h
    cases h

end Sink

/-! ### Sinks that are seen as other sinks -/

/-- Each sink answers as the one does that it is seen as, and is then seen as what that one has
become. -/
def Sink.Simulates {σ τ : Type} [Sink σ] [Sink τ] (f : σ → τ) : Prop :=
  ∀ s r, Sink.write (f s) r = (f (Sink.write s r).1, (Sink.write s r).2)

namespace Extraction

variable {σ τ : Type} [Sink σ] [Sink τ] {f : σ → τ}

/-- The state of a pass with its sink seen as another one. -/
def mapSink (f : σ → τ) (x : Extraction σ) : Extraction τ :=
  ⟨x.stats, f x.sink, x.events⟩

theorem write_mapSink (hf : Sink.Simulates f) (x : Extraction σ) (r : Record) :
    (x.mapSink f).write r = ((x.write r).1.mapSink f, (x.write r).2) := by
  have hsink := hf x.sink r
  rw [write, write]
  rcases hw : Sink.write x.sink r with ⟨sink, _ | e⟩
  · rw [hw] at hsink
    simp only [mapSink, hsink]
  · rw [hw] at hsink
    simp only [mapSink, hsink]

theorem take_mapSink (hf : Sink.Simulates f) (x : Extraction σ) (st : Statement) :
    (x.mapSink f).take st = ((x.take st).1.mapSink f, (x.take st).2) := by
  cases st with
  | malformed parts =>
    cases hadd : x.stats.addMalformed with
    | error e => simp only [take, mapSink, hadd]
    | ok stats => simp only [take, mapSink, hadd]
  | triple t =>
    cases hadd : x.stats.addTriple with
    | error e => simp only [take, mapSink, hadd]
    | ok stats =>
      cases hr : t.relation? with
      | none => simp only [take, mapSink, hadd, hr]
      | some r =>
        simp only [take, mapSink, hadd, hr]
        exact write_mapSink hf { x with stats := stats } ⟨r, t.subject, t.object⟩

omit [Sink σ] [Sink τ] in
theorem reportProgress_mapSink (interval : Count) (x : Extraction σ) :
    reportProgress interval (x.mapSink f) =
      ((reportProgress interval x).1.mapSink f, (reportProgress interval x).2) := by
  obtain ⟨stats, sink, events⟩ := x
  rw [mapSink, reportProgress_eq, reportProgress_eq, mapSink]

omit [Sink σ] [Sink τ] in
theorem result_mapSink (x : Extraction σ) (e : Option Error) :
    (x.mapSink f).result e = x.result e := by
  cases e <;> rfl

/-- **One line** is dealt with alike. -/
theorem step_mapSink (hf : Sink.Simulates f) (p : StatementParser) (interval : Count)
    (x : Extraction σ) (line : String) :
    (x.mapSink f).step p interval line =
      ((x.step p interval line).1.mapSink f, (x.step p interval line).2) := by
  cases hadd : x.stats.addLine with
  | error e => simp only [step, mapSink, hadd]
  | ok stats =>
    have htake := take_mapSink hf { x with stats := stats } (p.parse line)
    simp only [mapSink] at htake
    simp only [step, mapSink, hadd, htake]
    rcases take { x with stats := stats } (p.parse line) with ⟨y, _ | e⟩
    · exact reportProgress_mapSink interval y
    · rfl

/-- **A whole pass** goes alike. -/
theorem run_mapSink (hf : Sink.Simulates f) (p : StatementParser) (interval : Count)
    (x : Extraction σ) (items : List LineItem) :
    run p interval (x.mapSink f) items =
      ((run p interval x items).1.mapSink f, (run p interval x items).2) := by
  induction items generalizing x with
  | nil => rfl
  | cons item items ih =>
    cases item with
    | error e => rfl
    | ok line =>
      rw [run, run, step_mapSink hf]
      rcases x.step p interval line with ⟨y, _ | e⟩
      · exact ih y
      · rfl

end Extraction

/-- **Extractions into sinks of which one is seen as the other** have the same result and report the
same. -/
theorem extract_of_simulates {σ τ : Type} [Sink σ] [Sink τ] {f : σ → τ} (hf : Sink.Simulates f)
    (p : StatementParser) (interval : Count) (sink : σ) (items : List LineItem) :
    extract p interval (f sink) items =
      ⟨(extract p interval sink items).result, f (extract p interval sink items).sink,
        (extract p interval sink items).events⟩ := by
  have hrun : Extraction.run p interval ⟨{}, f sink, #[]⟩ items = _ :=
    Extraction.run_mapSink hf p interval ⟨{}, sink, #[]⟩ items
  rw [extract, extract, hrun]
  simp only [Extraction.result_mapSink]
  rfl

/-! ### Traced sinks -/

/-- A record that was handed to a sink, and the error with which it was refused if it was. -/
structure SinkCall where
  record : Record
  refusal? : Option Error
  deriving DecidableEq, Repr

namespace SinkCall

/-- The records that were taken, in order. -/
def taken (calls : List SinkCall) : List Record :=
  (calls.filter fun c ↦ c.refusal?.isNone).map SinkCall.record

/-- The number of records of the relation that were taken. -/
def writes (calls : List SinkCall) (r : Relation) : Nat :=
  ((taken calls).filter fun x ↦ x.relation = r).length

theorem taken_map (rs : List Record) : taken (rs.map fun r ↦ ⟨r, none⟩) = rs := by
  have hfilter : ((rs.map fun r ↦ (⟨r, none⟩ : SinkCall)).filter fun c ↦ c.refusal?.isNone) =
      rs.map fun r ↦ ⟨r, none⟩ := by
    refine List.filter_eq_self.2 fun c hc ↦ ?_
    obtain ⟨r, -, rfl⟩ := List.mem_map.1 hc
    rfl
  rw [taken, hfilter, List.map_map]
  exact List.map_id rs

end SinkCall

/-- A sink that notes the calls made to it and leaves the work to another one. -/
structure TracedSink (σ : Type) where
  sink : σ
  /-- The calls so far, in order. -/
  calls : List SinkCall := []

namespace TracedSink

variable {σ : Type} [Sink σ]

instance : Sink (TracedSink σ) where
  write s r :=
    let (sink, e) := Sink.write s.sink r
    (⟨sink, s.calls ++ [⟨r, e⟩]⟩, e)

theorem calls_write (s : TracedSink σ) (r : Record) :
    (Sink.write s r).1.calls = s.calls ++ [⟨r, (Sink.write s r).2⟩] :=
  rfl

theorem simulates_sink : Sink.Simulates (TracedSink.sink : TracedSink σ → σ) :=
  fun _ _ ↦ rfl

theorem sink_writeEach (s : TracedSink σ) (rs : List Record) :
    (Sink.writeEach s rs).sink = Sink.writeEach s.sink rs := by
  induction rs generalizing s with
  | nil => rfl
  | cons r rs ih => exact ih (Sink.write s r).1

/-- Every call is noted. -/
theorem map_record_calls (s : TracedSink σ) (rs : List Record) :
    (Sink.writeEach s rs).calls.map SinkCall.record = s.calls.map SinkCall.record ++ rs := by
  induction rs generalizing s with
  | nil => exact (List.append_nil _).symm
  | cons r rs ih =>
    refine (ih (Sink.write s r).1).trans ?_
    rw [calls_write, List.map_append, List.append_assoc]
    rfl

/-- Where nothing is refused, this is noted too. -/
theorem calls_of_taken {s : TracedSink σ} {rs : List Record} (h : (Sink.writeAll s rs).2 = none) :
    (Sink.writeAll s rs).1.calls = s.calls ++ rs.map fun r ↦ ⟨r, none⟩ := by
  induction rs generalizing s with
  | nil => exact (List.append_nil _).symm
  | cons r rs ih =>
    have hcalls := calls_write s r
    rw [Sink.writeAll] at h ⊢
    rcases hw : Sink.write s r with ⟨next, _ | e⟩
    · rw [hw] at h hcalls
      refine (ih h).trans ?_
      rw [hcalls, List.append_assoc]
      rfl
    · rw [hw] at h
      cases h

end TracedSink

section

variable {σ : Type} [Sink σ] (p : StatementParser) (interval : Count) (sink : σ)
  (items : List LineItem)

/-- The calls that an extraction makes to its sink, in order. -/
def extractCalls : List SinkCall :=
  (extract p interval (⟨sink, []⟩ : TracedSink σ) items).sink.calls

/-- **Tracing** makes no difference to an extraction. -/
theorem extract_traced :
    (extract p interval (⟨sink, []⟩ : TracedSink σ) items).result =
        (extract p interval sink items).result ∧
      (extract p interval (⟨sink, []⟩ : TracedSink σ) items).sink.sink =
        (extract p interval sink items).sink ∧
      (extract p interval (⟨sink, []⟩ : TracedSink σ) items).events =
        (extract p interval sink items).events := by
  have hsim := extract_of_simulates TracedSink.simulates_sink p interval ⟨sink, []⟩ items
  rw [hsim]
  exact ⟨rfl, rfl, rfl⟩

/-- **The calls of an extraction** are those for the records of the lines that can be counted: all
of them, and none is refused, or those up to the first that is refused, which ends the
extraction. -/
theorem extractCalls_cases :
    (extractCalls p interval sink items =
        (p.records (LineItem.countable 0 items)).map (fun r ↦ ⟨r, none⟩) ∧
      (extract p interval sink items).result =
        match LineItem.ending 0 items with
        | none => .ok (Stats.ofLines p (LineItem.countable 0 items))
        | some e => .error e) ∨
    ∃ before r after e, p.records (LineItem.countable 0 items) = before ++ r :: after ∧
      extractCalls p interval sink items = before.map (fun r ↦ ⟨r, none⟩) ++ [⟨r, some e⟩] ∧
      (Sink.write (Sink.writeEach sink before) r).2 = some e ∧
      (extract p interval sink items).result = .error e := by
  rw [extractCalls, sink_extract, ← (extract_traced p interval sink items).1]
  rcases Sink.writeAll_cases (⟨sink, []⟩ : TracedSink σ) (p.records (LineItem.countable 0 items)) with
    hall | ⟨before, r, after, e, hrecords, hbefore, he, hrefused⟩
  · have hnone := congrArg Prod.snd hall
    exact Or.inl ⟨TracedSink.calls_of_taken hnone, result_extract hnone⟩
  · refine Or.inr ⟨before, r, after, e, hrecords, ?_, ?_, ?_⟩
    · have htaken := TracedSink.calls_of_taken (congrArg Prod.snd hbefore)
      rw [hbefore] at htaken
      rw [hrefused, Sink.writeEach_concat, TracedSink.calls_write, he, htaken]
      rfl
    · have hsink := TracedSink.sink_writeEach (⟨sink, []⟩ : TracedSink σ) before
      rw [← hsink]
      exact he
    · have hout := outcome_extract p interval (⟨sink, []⟩ : TracedSink σ) items
      have herror := hout.error_eq
      rw [hrefused, Option.some_or] at herror
      show Extraction.result _ _ = _
      rw [herror]
      rfl

/-- The sink is what these calls have made of it. -/
theorem sink_extract_eq_writeEach :
    (extract p interval sink items).sink =
      Sink.writeEach sink ((extractCalls p interval sink items).map SinkCall.record) := by
  rw [extractCalls, ← (extract_traced p interval sink items).2.1, sink_extract]
  rcases Sink.writeAll_cases (⟨sink, []⟩ : TracedSink σ) (p.records (LineItem.countable 0 items)) with
    hall | ⟨before, r, after, e, -, -, -, hrefused⟩
  · rw [hall, TracedSink.sink_writeEach, TracedSink.map_record_calls]
    rfl
  · rw [hrefused, TracedSink.sink_writeEach, TracedSink.map_record_calls]
    rfl

variable {p interval sink items}

/-- Every record that is handed over is one of a line that was read. -/
theorem exists_line_of_mem_extractCalls {c : SinkCall}
    (hc : c ∈ extractCalls p interval sink items) :
    ∃ line ∈ LineItem.readable items, p.record? line = some c.record := by
  have hmem : c.record ∈ p.records (LineItem.countable 0 items) := by
    rcases extractCalls_cases p interval sink items with
      ⟨hcalls, -⟩ | ⟨before, r, after, e, hrecords, hcalls, -, -⟩
    · rw [hcalls] at hc
      obtain ⟨r, hr, rfl⟩ := List.mem_map.1 hc
      exact hr
    · rw [hcalls] at hc
      rw [hrecords]
      rcases List.mem_append.1 hc with hbefore | hlast
      · obtain ⟨x, hx, rfl⟩ := List.mem_map.1 hbefore
        exact List.mem_append_left _ hx
      · rw [List.mem_singleton.1 hlast]
        exact List.mem_append_right _ List.mem_cons_self
  obtain ⟨line, hline, hrec⟩ := List.mem_filterMap.1 hmem
  exact ⟨line, (LineItem.countable_prefix 0 items).subset hline, hrec⟩

/-- An extraction that ends well has been refused nothing. -/
theorem extractCalls_of_ok {stats : Stats}
    (h : (extract p interval sink items).result = .ok stats) :
    extractCalls p interval sink items =
      (p.records (LineItem.readable items)).map fun r ↦ ⟨r, none⟩ := by
  obtain ⟨hlen, -, -, -⟩ := of_extract_eq_ok h
  have hlt : 0 + (LineItem.readable items).length < 2 ^ 64 := by omega
  obtain ⟨hcount, -⟩ := LineItem.countable_and_ending_of_lt hlt
  rcases extractCalls_cases p interval sink items with
    ⟨hcalls, -⟩ | ⟨before, r, after, e, -, -, -, hresult⟩
  · rw [hcalls, hcount]
  · rw [hresult] at h
    cases h

/-- The counts of an extraction that ends well are those of the records taken. -/
theorem toNat_written_of_ok {stats : Stats}
    (h : (extract p interval sink items).result = .ok stats) (r : Relation) :
    (stats.written r).toNat = SinkCall.writes (extractCalls p interval sink items) r := by
  obtain ⟨hlen, -, rfl, -⟩ := of_extract_eq_ok h
  obtain ⟨-, -, -, -, hwritten⟩ := Stats.toNat_counters (p := p) hlen
  rw [hwritten, extractCalls_of_ok h, SinkCall.writes, SinkCall.taken_map,
    StatementParser.recordsOf]

end

end PersonRelations
