import PersonRelations.Proofs.Extraction.Pass

/-!
# Extraction up to the first failure

An extraction can be ended from two sides: by an item that is an error, and by a sink that refuses a
record. Items are of four kinds (malformed lines, triples of no relation, triples of a relation, and
errors) and stand in any order, so that either side can come first. This module says what is left in
both cases, for a memory that refuses its `k`-th record.

* `LineItem.errorIndex` is the position of the first error, `LineItem.writeIndex` that of the line
  which makes the `k`-th record; where there is no such item, both are the position behind the last
  one. Neither mentions an extraction.
* Before the first error there are lines only (`LineItem.take_eq_map_of_le_errorIndex`), and before
  the `k`-th record there are `k - 1` others (`LineItem.of_writeIndex_lt`), which is how many the
  memory takes (`FailingSink.writeAll_taken`, `FailingSink.writeAll_refused`).
* `extract_append_of_error`: an extraction that has failed does not look at what comes later.

`extract_up_to_first_failure` puts the two positions together: what is left are the records of the
lines before the smaller one, and the smaller one decides how the extraction ends.
-/

namespace PersonRelations

/-! ### Where an extraction can fail -/

namespace LineItem

/-- Whether the item is an error. -/
def isError : LineItem → Bool
  | .ok _ => false
  | .error _ => true

/-- The record that the item makes, if it is a line that makes one. -/
def record? (p : StatementParser) : LineItem → Option Record
  | .ok line => p.record? line
  | .error _ => none

/-- Whether the item is a line that makes a record. -/
def makesRecord (p : StatementParser) (item : LineItem) : Bool :=
  (record? p item).isSome

/-- The position of the first error; behind the last item if there is none. -/
def errorIndex (items : List LineItem) : Nat :=
  items.findIdx isError

/-- The position of the line that makes record number `k`, counted from 1; behind the last item if
there is none. -/
def writeIndex (p : StatementParser) (items : List LineItem) : Nat → Nat
  | 0 => items.length
  | k + 1 => items.findIdxNth (makesRecord p) k

variable {p : StatementParser} {items : List LineItem}

theorem filterMap_record?_map (p : StatementParser) (texts : List String) :
    (texts.map .ok).filterMap (record? p) = p.records texts :=
  List.filterMap_map

theorem errorIndex_le_length (items : List LineItem) : errorIndex items ≤ items.length :=
  List.findIdx_le_length

theorem writeIndex_le_length (p : StatementParser) (items : List LineItem) (k : Nat) :
    writeIndex p items k ≤ items.length := by
  cases k with
  | zero => exact Nat.le_refl _
  | succ k => exact List.findIdxNth_le_length

/-- **Before the first error** there are lines only. -/
theorem take_eq_map_of_le_errorIndex {i : Nat} (h : i ≤ errorIndex items) :
    ∃ texts : List String, items.take i = texts.map .ok := by
  induction items generalizing i with
  | nil => exact ⟨[], List.take_nil⟩
  | cons item items ih =>
    cases i with
    | zero => exact ⟨[], rfl⟩
    | succ i =>
      rw [errorIndex, List.findIdx_cons] at h
      cases item with
      | error e => simp [isError] at h
      | ok line =>
        obtain ⟨texts, htexts⟩ := ih (i := i) (by simpa [isError, errorIndex] using h)
        exact ⟨line :: texts, by rw [List.take_succ_cons, htexts, List.map_cons]⟩

/-- The first error stands where its position says. -/
theorem exists_error_of_errorIndex_lt (h : errorIndex items < items.length) :
    ∃ e, items[errorIndex items]? = some (.error e) := by
  have herror : isError items[errorIndex items] = true := List.findIdx_getElem
  rw [List.getElem?_eq_getElem h]
  cases hitem : items[errorIndex items] with
  | ok line =>
    rw [hitem] at herror
    cases herror
  | error e => exact ⟨e, rfl⟩

theorem length_filterMap_record? (p : StatementParser) (items : List LineItem) :
    (items.filterMap (record? p)).length = items.countP (makesRecord p) :=
  List.length_filterMap_eq_countP

/-- **The line of the `k`-th record** has `k - 1` records before it. -/
theorem of_writeIndex_lt {k : Nat} (h : writeIndex p items k < items.length) :
    ∃ line r, items[writeIndex p items k]? = some (.ok line) ∧ p.record? line = some r ∧
      ((items.take (writeIndex p items k)).filterMap (record? p)).length + 1 = k := by
  cases k with
  | zero => exact absurd h (Nat.lt_irrefl _)
  | succ k =>
    have hrecord : makesRecord p items[writeIndex p items (k + 1)] = true :=
      List.pos_findIdxNth_getElem (h := h)
    obtain ⟨r, hr⟩ := Option.isSome_iff_exists.1 hrecord
    have hbefore : (items.take (writeIndex p items (k + 1))).countP (makesRecord p) = k := by
      rw [← List.countPBefore_eq_countP_take]
      exact List.countPBefore_findIdxNth_of_lt_countP (List.findIdxNth_lt_length_iff.1 h)
    rw [List.getElem?_eq_getElem h, length_filterMap_record?, hbefore]
    cases hitem : items[writeIndex p items (k + 1)] with
    | error e =>
      rw [hitem] at hr
      cases hr
    | ok line =>
      rw [hitem] at hr
      exact ⟨line, r, rfl, hr, rfl⟩

/-- Up to that line there are fewer than `k` records. -/
theorem length_lt_of_le_writeIndex {k i : Nat} (hk : k ≠ 0) (h : i ≤ writeIndex p items k) :
    ((items.take i).filterMap (record? p)).length < k := by
  have hle : ((items.take i).filterMap (record? p)).length ≤
      ((items.take (writeIndex p items k)).filterMap (record? p)).length :=
    ((List.take_prefix_take_left h).filterMap _).length_le
  rcases Nat.lt_or_ge (writeIndex p items k) items.length with hlt | hge
  · obtain ⟨-, -, -, -, hcount⟩ := of_writeIndex_lt hlt
    omega
  · -- there are not `k` records at all
    obtain ⟨k, rfl⟩ := Nat.exists_eq_succ_of_ne_zero hk
    have hend : items.findIdxNth (makesRecord p) k = items.length :=
      Nat.le_antisymm List.findIdxNth_le_length hge
    have hall := List.findIdxNth_eq_length_iff.1 hend
    rw [List.take_of_length_le hge, length_filterMap_record? p items] at hle
    omega

end LineItem

/-! ### A memory that refuses one record -/

namespace FailingSink

/-- Records that do not come up to the refused one are taken. -/
theorem writeAll_taken (s : FailingSink) (rs : List Record)
    (h : s.failAt ≤ s.writes ∨ s.writes + rs.length < s.failAt) :
    Sink.writeAll s rs =
      (⟨⟨s.memory.records ++ rs.toArray⟩, s.writes + rs.length, s.failAt⟩, none) := by
  induction rs generalizing s with
  | nil => simp [Sink.writeAll]
  | cons r rs ih =>
    rw [List.length_cons] at h
    have hwrite : Sink.write s r =
        ({ s with memory := s.memory.push r, writes := s.writes + 1 }, none) :=
      if_neg (by omega)
    rw [Sink.writeAll, hwrite]
    refine (ih _ (by simp only; omega)).trans ?_
    simp [MemorySink.push, Nat.add_assoc, Nat.add_comm 1]

/-- The refused record ends the writing, and those before it are kept. -/
theorem writeAll_refused (s : FailingSink) (before : List Record) (r : Record)
    (h : s.writes + before.length + 1 = s.failAt) :
    Sink.writeAll s (before ++ [r]) =
      (⟨⟨s.memory.records ++ before.toArray⟩, s.failAt, s.failAt⟩,
        some (.outputWrite r.relation (.other "sink full"))) := by
  induction before generalizing s with
  | nil =>
    have hwrite : Sink.write s r = ({ s with writes := s.writes + 1 },
        some (.outputWrite r.relation (.other "sink full"))) := if_pos h
    rw [List.nil_append, Sink.writeAll, hwrite]
    simp [← h]
  | cons x before ih =>
    rw [List.length_cons] at h
    have hwrite : Sink.write s x =
        ({ s with memory := s.memory.push x, writes := s.writes + 1 }, none) :=
      if_neg (by omega)
    rw [List.cons_append, Sink.writeAll, hwrite]
    refine (ih _ (by simp only; omega)).trans ?_
    simp [MemorySink.push]

end FailingSink

/-! ### Nothing behind a failure is looked at -/

section

variable {σ : Type} [Sink σ] {p : StatementParser} {interval : Count}

/-- A pass that has failed is over. -/
theorem Extraction.run_append_of_error {x : Extraction σ} {items : List LineItem}
    (h : (run p interval x items).2 ≠ none) (later : List LineItem) :
    run p interval x (items ++ later) = run p interval x items := by
  induction items generalizing x with
  | nil => exact absurd rfl h
  | cons item items ih =>
    cases item with
    | error e => rfl
    | ok line =>
      rw [run] at h
      rw [List.cons_append, run, run]
      rcases hstep : x.step p interval line with ⟨y, _ | e⟩
      · rw [hstep] at h
        exact ih h
      · rfl

/-- **An extraction that fails** fails alike whatever comes later. -/
theorem extract_append_of_error {sink : σ} {items : List LineItem} {e : Error}
    (h : (extract p interval sink items).result = .error e) (later : List LineItem) :
    extract p interval sink (items ++ later) = extract p interval sink items := by
  have hrun : (Extraction.run p interval ⟨{}, sink, #[]⟩ items).2 ≠ none := by
    intro hnone
    have hok : (extract p interval sink items).result =
        Extraction.result (Extraction.run p interval ⟨{}, sink, #[]⟩ items).1 none := by
      rw [← hnone]
      rfl
    rw [h] at hok
    cases hok
  rw [extract, Extraction.run_append_of_error hrun]
  rfl

/-- An extraction that has failed by position `i` has not looked further. -/
theorem extract_of_take_error {sink : σ} {items : List LineItem} {i : Nat} {e : Error}
    (h : (extract p interval sink (items.take i)).result = .error e) :
    extract p interval sink items = extract p interval sink (items.take i) ∧
      ∀ later, extract p interval sink (items.take i ++ later) = extract p interval sink items := by
  have hitems : extract p interval sink items = extract p interval sink (items.take i) := by
    conv => lhs; rw [← List.take_append_drop i items]
    exact extract_append_of_error h _
  exact ⟨hitems, fun later ↦ (extract_append_of_error h later).trans hitems.symm⟩

/-- **Lines and what ends them.** The sink is handed the records of the lines; the extraction ends
with the sink's refusal, or else as the lines end. -/
theorem extract_lines (interval : Count) {sink sink' : σ} {texts : List String}
    {refusal? : Option Error} (hlen : texts.length < 2 ^ 64)
    (hwrite : Sink.writeAll sink (p.records texts) = (sink', refusal?)) (stop? : Option Error) :
    (extract p interval sink (texts.map .ok ++ (stop?.map .error).toList)).sink = sink' ∧
      (extract p interval sink (texts.map .ok ++ (stop?.map .error).toList)).result =
        match refusal?.or stop? with
        | none => .ok (Stats.ofLines p texts)
        | some e => .error e := by
  obtain ⟨hcount, hend⟩ := LineItem.countable_and_ending_append
    (stop?.map .error).toList (show 0 + texts.length < 2 ^ 64 by omega)
  have htail : LineItem.countable (0 + texts.length) (stop?.map .error).toList = [] ∧
      LineItem.ending (0 + texts.length) (stop?.map .error).toList = stop? := by
    cases stop? with
    | none => exact ⟨rfl, rfl⟩
    | some e => exact ⟨rfl, rfl⟩
  rw [htail.1, List.append_nil] at hcount
  rw [htail.2] at hend
  have hout := outcome_extract p interval sink (texts.map .ok ++ (stop?.map .error).toList)
  rw [hcount, hend] at hout
  refine ⟨hout.sink_eq.trans (by rw [hwrite]), ?_⟩
  show Extraction.result _ _ = _
  rw [hout.error_eq, hwrite]
  cases hend : refusal?.or stop? with
  | none =>
    have hnone := (Option.or_eq_none_iff.1 hend).1
    exact congrArg Except.ok (hout.stats_eq (by rw [hwrite, hnone]))
  | some e => rfl

end

/-! ### The first failure -/

/-- An empty memory that refuses record number `k`, counted from 1; 0 refuses none. -/
def FailingSink.refusing (k : Nat) : FailingSink := ⟨{}, 0, k⟩

section

variable {p : StatementParser} {k : Nat} {items : List LineItem}

/-- Before both positions there are lines whose records are all taken. -/
theorem exists_lines_taken {i : Nat} (herror : i ≤ LineItem.errorIndex items)
    (hwrite : i ≤ LineItem.writeIndex p items k) :
    ∃ texts : List String, items.take i = texts.map .ok ∧ texts.length ≤ items.length ∧
      Sink.writeAll (FailingSink.refusing k) (p.records texts) =
        (⟨⟨(p.records texts).toArray⟩, (p.records texts).length, k⟩, none) := by
  obtain ⟨texts, htexts⟩ := LineItem.take_eq_map_of_le_errorIndex herror
  have hlen : texts.length ≤ items.length := by
    have htake := congrArg List.length htexts
    rw [List.length_take, List.length_map] at htake
    omega
  have hroom : k ≤ 0 ∨ 0 + (p.records texts).length < k := by
    rcases Nat.eq_zero_or_pos k with hk | hk
    · exact Or.inl (Nat.le_of_eq hk)
    · have hlt := LineItem.length_lt_of_le_writeIndex (Nat.ne_of_gt hk) hwrite
      rw [htexts, LineItem.filterMap_record?_map] at hlt
      omega
  refine ⟨texts, htexts, hlen, ?_⟩
  rw [FailingSink.writeAll_taken _ _ hroom]
  simp [FailingSink.refusing]

/-- **The error comes first.** -/
theorem extract_of_error_first (interval : Count) (hlen : items.length < 2 ^ 64)
    (h : LineItem.errorIndex items < LineItem.writeIndex p items k) :
    (extract p interval (FailingSink.refusing k) items).sink.memory.records.toList =
      (items.take (LineItem.errorIndex items)).filterMap (LineItem.record? p) ∧
    ∃ e, items[LineItem.errorIndex items]? = some (.error e) ∧
      (extract p interval (FailingSink.refusing k) items).result = .error e ∧
      ∀ later, extract p interval (FailingSink.refusing k)
          (items.take (LineItem.errorIndex items + 1) ++ later) =
        extract p interval (FailingSink.refusing k) items := by
  obtain ⟨texts, htexts, htextsLen, htaken⟩ :=
    exists_lines_taken (p := p) (Nat.le_refl (LineItem.errorIndex items)) (Nat.le_of_lt h)
  obtain ⟨e, he⟩ := LineItem.exists_error_of_errorIndex_lt
    (Nat.lt_of_lt_of_le h (LineItem.writeIndex_le_length p items k))
  have hread : items.take (LineItem.errorIndex items + 1) = texts.map .ok ++ [.error e] := by
    rw [List.take_add_one, htexts, he]
    rfl
  obtain ⟨hsink, hresult⟩ :=
    extract_lines interval (show texts.length < 2 ^ 64 by omega) htaken (some e)
  rw [Option.map_some, Option.toList_some, ← hread] at hsink hresult
  obtain ⟨hitems, hlater⟩ := extract_of_take_error hresult
  refine ⟨?_, e, he, by rw [hitems, hresult]; rfl, hlater⟩
  rw [hitems, hsink, htexts, LineItem.filterMap_record?_map]

/-- **The refused record comes first.** -/
theorem extract_of_refusal_first (interval : Count) (hlen : items.length < 2 ^ 64)
    (h : LineItem.writeIndex p items k < LineItem.errorIndex items) :
    (extract p interval (FailingSink.refusing k) items).sink.memory.records.toList =
      (items.take (LineItem.writeIndex p items k)).filterMap (LineItem.record? p) ∧
    ∃ line r, items[LineItem.writeIndex p items k]? = some (.ok line) ∧ p.record? line = some r ∧
      (extract p interval (FailingSink.refusing k) items).result =
        .error (.outputWrite r.relation (.other "sink full")) ∧
      ∀ later, extract p interval (FailingSink.refusing k)
          (items.take (LineItem.writeIndex p items k + 1) ++ later) =
        extract p interval (FailingSink.refusing k) items := by
  obtain ⟨texts, htexts, htextsLen, -⟩ :=
    exists_lines_taken (Nat.le_of_lt h) (Nat.le_refl (LineItem.writeIndex p items k))
  obtain ⟨line, r, hline, hr, hcount⟩ := LineItem.of_writeIndex_lt
    (Nat.lt_of_lt_of_le h (LineItem.errorIndex_le_length items))
  have hread : items.take (LineItem.writeIndex p items k + 1) = (texts ++ [line]).map .ok := by
    rw [List.take_add_one, htexts, hline, List.map_append]
    rfl
  have hrecords : p.records (texts ++ [line]) = p.records texts ++ [r] := by
    rw [p.records_append]
    exact congrArg _ (List.filterMap_cons_some hr)
  -- the records before it are one fewer than the number of the refused one
  have hrefused := FailingSink.writeAll_refused (FailingSink.refusing k) (p.records texts) r (by
    rw [htexts, LineItem.filterMap_record?_map] at hcount
    show 0 + (p.records texts).length + 1 = k
    omega)
  rw [← hrecords] at hrefused
  have hlenRead : (texts ++ [line]).length < 2 ^ 64 := by
    have hread' := congrArg List.length hread
    rw [List.length_take, List.length_map] at hread'
    omega
  obtain ⟨hsink, hresult⟩ := extract_lines interval hlenRead hrefused none
  rw [Option.map_none, Option.toList_none, List.append_nil, ← hread] at hsink hresult
  obtain ⟨hitems, hlater⟩ := extract_of_take_error hresult
  refine ⟨?_, line, r, hline, hr, by rw [hitems, hresult]; rfl, hlater⟩
  rw [hitems, hsink, htexts, LineItem.filterMap_record?_map]
  simp [FailingSink.refusing]

/-- **Nothing fails.** The two positions are the same only where there is neither: an item that
makes a record is no error. -/
theorem extract_of_no_failure (interval : Count) (hlen : items.length < 2 ^ 64)
    (h : LineItem.errorIndex items = LineItem.writeIndex p items k) :
    (extract p interval (FailingSink.refusing k) items).sink.memory.records.toList =
      items.filterMap (LineItem.record? p) ∧
    LineItem.errorIndex items = items.length ∧
    (extract p interval (FailingSink.refusing k) items).result =
      .ok (Stats.ofLines p (LineItem.readable items)) := by
  have hend : LineItem.errorIndex items = items.length := by
    rcases Nat.lt_or_ge (LineItem.errorIndex items) items.length with hlt | hge
    · obtain ⟨e, he⟩ := LineItem.exists_error_of_errorIndex_lt hlt
      obtain ⟨line, r, hline, -, -⟩ := LineItem.of_writeIndex_lt (h ▸ hlt)
      rw [← h, he] at hline
      cases hline
    · exact Nat.le_antisymm (LineItem.errorIndex_le_length items) hge
  obtain ⟨texts, htexts, htextsLen, htaken⟩ :=
    exists_lines_taken (Nat.le_of_eq hend.symm) (Nat.le_of_eq (hend.symm.trans h))
  rw [List.take_length] at htexts
  obtain ⟨hsink, hresult⟩ :=
    extract_lines interval (show texts.length < 2 ^ 64 by omega) htaken none
  rw [Option.map_none, Option.toList_none, List.append_nil, ← htexts] at hsink hresult
  refine ⟨?_, hend, ?_⟩
  · rw [hsink, htexts, LineItem.filterMap_record?_map]
  · rw [hresult, htexts, LineItem.readable_map]
    rfl

end

/-- **Extraction up to the first failure.** Fewer than 2^64 items are extracted into a memory that
refuses its `k`-th record. Two positions matter: that of the first error, and that of the line which
makes the `k`-th record.

* The memory holds the records of the lines before both positions, in order.
* If the error comes first, it is returned as it is, and nothing behind it is looked at: with any
  other items there, the extraction is the same.
* If the `k`-th record comes first, it is refused, and the error names its relation. Nothing behind
  its line is looked at.
* Otherwise there is neither, and the extraction ends well. -/
theorem extract_up_to_first_failure (p : StatementParser) (interval : Count) (k : Nat)
    (items : List LineItem) (hlen : items.length < 2 ^ 64) :
    (extract p interval (FailingSink.refusing k) items).sink.memory.records.toList =
      (items.take (min (LineItem.errorIndex items) (LineItem.writeIndex p items k))).filterMap
        (LineItem.record? p) ∧
    (LineItem.errorIndex items < LineItem.writeIndex p items k →
      ∃ e, items[LineItem.errorIndex items]? = some (.error e) ∧
        (extract p interval (FailingSink.refusing k) items).result = .error e ∧
        ∀ later, extract p interval (FailingSink.refusing k)
            (items.take (LineItem.errorIndex items + 1) ++ later) =
          extract p interval (FailingSink.refusing k) items) ∧
    (LineItem.writeIndex p items k < LineItem.errorIndex items →
      ∃ line r, items[LineItem.writeIndex p items k]? = some (.ok line) ∧
        p.record? line = some r ∧
        (extract p interval (FailingSink.refusing k) items).result =
          .error (.outputWrite r.relation (.other "sink full")) ∧
        ∀ later, extract p interval (FailingSink.refusing k)
            (items.take (LineItem.writeIndex p items k + 1) ++ later) =
          extract p interval (FailingSink.refusing k) items) ∧
    (LineItem.errorIndex items = LineItem.writeIndex p items k →
      LineItem.errorIndex items = items.length ∧
        (extract p interval (FailingSink.refusing k) items).result =
          .ok (Stats.ofLines p (LineItem.readable items))) := by
  rcases Nat.lt_trichotomy (LineItem.errorIndex items) (LineItem.writeIndex p items k) with
    hlt | heq | hgt
  · obtain ⟨hrecords, hfails⟩ := extract_of_error_first interval hlen hlt
    refine ⟨?_, fun _ ↦ hfails, fun h ↦ by omega, fun h ↦ by omega⟩
    rw [hrecords, Nat.min_eq_left (Nat.le_of_lt hlt)]
  · obtain ⟨hrecords, hend, hresult⟩ := extract_of_no_failure interval hlen heq
    refine ⟨?_, fun h ↦ by omega, fun h ↦ by omega, fun _ ↦ ⟨hend, hresult⟩⟩
    rw [hrecords, ← heq, Nat.min_self, hend, List.take_length]
  · obtain ⟨hrecords, hfails⟩ := extract_of_refusal_first interval hlen hgt
    refine ⟨?_, fun h ↦ by omega, fun _ ↦ hfails, fun h ↦ by omega⟩
    rw [hrecords, Nat.min_eq_right (Nat.le_of_lt hgt)]

/-- Two lines with records, and an error between them. -/
def twoFailures : List LineItem :=
  [.ok "<Q1> <P22> <Q2> .", .ok "no triple", .error (.inputRead 3 (.other "corrupt stream")),
    .ok "<Q3> <P25> <Q4> ."]

/-- The second record would be refused, but the error comes first; the first one is refused before
the error comes. -/
theorem extract_up_to_first_failure_either_side :
    twoFailures.length < 2 ^ 64 ∧
      (extract default 0 (FailingSink.refusing 2) twoFailures).sink.memory.records.toList =
        [⟨.hasFather, "Q1", "Q2"⟩] ∧
      (extract default 0 (FailingSink.refusing 2) twoFailures).result =
        .error (.inputRead 3 (.other "corrupt stream")) ∧
      (extract default 0 (FailingSink.refusing 1) twoFailures).sink.memory.records.toList = [] ∧
      (extract default 0 (FailingSink.refusing 1) twoFailures).result =
        .error (.outputWrite .hasFather (.other "sink full")) := by
  have hlen : twoFailures.length < 2 ^ 64 := by decide
  have hfirst : LineItem.writeIndex default twoFailures 1 = 0 := by decide +kernel
  have hrecord : (default : StatementParser).record? "<Q1> <P22> <Q2> ." =
      some ⟨.hasFather, "Q1", "Q2"⟩ := by decide +kernel
  obtain ⟨hkept, hfailed, -, -⟩ := extract_up_to_first_failure default 0 2 twoFailures hlen
  obtain ⟨e, ⟨⟩, hresult, -⟩ := hfailed (by decide +kernel)
  obtain ⟨hnone, -, hrefused, -⟩ := extract_up_to_first_failure default 0 1 twoFailures hlen
  obtain ⟨line, r, hline, hr, hresult', -⟩ := hrefused (by decide +kernel)
  rw [hfirst] at hline
  obtain rfl : "<Q1> <P22> <Q2> ." = line := Except.ok.inj (Option.some.inj hline)
  obtain rfl := Option.some.inj (hrecord.symm.trans hr)
  refine ⟨hlen, ?_, hresult, ?_, hresult'⟩
  · rw [hkept]
    decide +kernel
  · rw [hnone]
    decide +kernel

end PersonRelations
