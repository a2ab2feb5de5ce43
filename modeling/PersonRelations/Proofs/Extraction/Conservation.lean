import PersonRelations.Proofs.Extraction.Calls

/-!
# Counts are conserved

Six counters are kept on different branches of a pass, some before the sink is asked and some after
it has answered. What holds between them is read off the one equation that the pass keeps
(`Stats.ofLines`): every line is a triple or malformed, every triple has a record or belongs to no
relation (`StatementParser.countP_isTriple`), and every record belongs to exactly one relation
(`Relation.sum_length_filter`).

The main statement is `counts_conserved`. It holds for every sink, with the calls that are made to
it (`extractCalls`) as the measure of what it was handed and what it took. Counters are numbers of
64 bits, and running over, a negative difference and a remainder by zero are errors of their own;
below 2^64 items none of them occurs.
-/

namespace PersonRelations

/-! ### Records by relation -/

/-- Every record belongs to exactly one relation. -/
theorem Relation.sum_length_filter (rs : List Record) :
    (Relation.all.map fun r ↦ (rs.filter fun x ↦ x.relation = r).length).sum = rs.length := by
  induction rs with
  | nil => decide
  | cons x rs ih =>
    -- the new record counts for its own relation, and this stands once in the table
    have hsplit : ∀ l : List Relation,
        (l.map fun r ↦ ((x :: rs).filter fun y ↦ y.relation = r).length).sum =
          l.count x.relation + (l.map fun r ↦ (rs.filter fun y ↦ y.relation = r).length).sum := by
      intro l
      induction l with
      | nil => rfl
      | cons r l ihl =>
        rw [List.map_cons, List.sum_cons, ihl, List.map_cons, List.sum_cons, List.count_cons,
          List.filter_cons]
        by_cases hr : x.relation = r
        · simp only [hr, decide_true, ↓reduceIte, List.length_cons, BEq.rfl]
          omega
        · simp only [hr, decide_false, Bool.false_eq_true, ↓reduceIte, beq_iff_eq, Ne.symm hr,
            add_zero]
          omega
    have honce : Relation.all.count x.relation = 1 := by
      rw [Relation.nodup_all.count, if_pos (Relation.mem_all x.relation)]
    rw [hsplit, honce, ih, List.length_cons, Nat.add_comm]

/-! ### Lines by what they are -/

namespace StatementParser

variable (p : StatementParser)

/-- Whether the line is a triple that belongs to no relation. -/
def isUnrelated (line : String) : Bool :=
  match p.parse line with
  | .triple t => t.relation?.isNone
  | .malformed _ => false

/-- A triple has a record or belongs to no relation. -/
theorem countP_isTriple (lines : List String) :
    lines.countP p.isTriple = (p.records lines).length + lines.countP p.isUnrelated := by
  induction lines with
  | nil => rfl
  | cons line lines ih =>
    rw [records, List.filterMap_cons, List.countP_cons, List.countP_cons, ih, records]
    cases hline : p.parse line with
    | malformed parts => simp [isTriple, isUnrelated, record?, hline]
    | triple t =>
      cases hr : t.relation? with
      | none =>
        simp only [record?, isTriple, hline, ↓reduceIte, hr, Option.map_none, isUnrelated,
          Option.isNone_none]
        omega
      | some r =>
        simp only [record?, isTriple, hline, ↓reduceIte, hr, Option.map_some, List.length_cons,
          isUnrelated, Option.isNone_some, Bool.false_eq_true, add_zero]
        omega

end StatementParser

/-! ### Counters that agree -/

/-- The counters agree with each other, with the lines that were read, and with the calls that were
made to the sink. -/
structure Stats.Balanced (p : StatementParser) (lines : List String) (calls : List SinkCall)
    (s : Stats) : Prop where
  /-- A line is a triple or malformed. -/
  linesRead_eq : s.linesRead.toNat = s.triplesParsed.toNat + s.malformedLines.toNat
  /-- What is written is written for some relation. -/
  triplesWritten_eq : s.triplesWritten.toNat = (s.relationCounts.map fun x ↦ x.2.toNat).sum
  /-- A relation has a count if a record of it was taken. -/
  isSome_iff : ∀ r, (s.perRelation.get r).isSome ↔ 0 < SinkCall.writes calls r
  /-- The count is the number of these records. -/
  toNat_eq : ∀ r n, s.perRelation.get r = some n → n.toNat = SinkCall.writes calls r
  /-- Only triples are written. -/
  triplesWritten_le : s.triplesWritten.toNat ≤ s.triplesParsed.toNat
  /-- What is not written belongs to no relation, and its number can be computed. -/
  discarded_eq : ∃ n, s.discarded = .ok n ∧ n.toNat = lines.countP p.isUnrelated

namespace SinkCall

theorem findSome?_refusal_map (rs : List Record) :
    (rs.map fun r ↦ (⟨r, none⟩ : SinkCall)).findSome? refusal? = none := by
  rw [List.findSome?_eq_none_iff]
  intro c hc
  obtain ⟨r, -, rfl⟩ := List.mem_map.1 hc
  rfl

end SinkCall

/-- **The counters of a pass** over fewer than 2^64 lines agree, if the sink took every record. -/
theorem Stats.balanced_ofLines (p : StatementParser) {lines : List String}
    (h : lines.length < 2 ^ 64) :
    (ofLines p lines).Balanced p lines ((p.records lines).map fun r ↦ ⟨r, none⟩) := by
  obtain ⟨hlines, htriples, hmalformed, hwritten, hwrittenOf⟩ := toNat_counters (p := p) h
  have hcount := p.countP_isTriple lines
  have hwrites : ∀ r, SinkCall.writes ((p.records lines).map fun r ↦ ⟨r, none⟩) r =
      (p.recordsOf r lines).length := by
    intro r
    rw [SinkCall.writes, SinkCall.taken_map, StatementParser.recordsOf]
  have hget : ∀ r, (ofLines p lines).perRelation.get r = countOf (p.recordsOf r lines).length := by
    intro r
    rw [ofLines, Relation.Table.get_ofFn]
  constructor
  · rw [hlines, htriples, hmalformed]
    simpa using List.length_eq_countP_add_countP p.isTriple (l := lines)
  · rw [hwritten, sum_relationCounts, ← Relation.sum_length_filter]
    exact congrArg List.sum (List.map_congr_left fun r _ ↦ (hwrittenOf r).symm)
  · intro r
    rw [hget, hwrites, countOf, Nat.pos_iff_ne_zero]
    by_cases hzero : (p.recordsOf r lines).length = 0
    · simp [hzero]
    · simp [hzero]
  · intro r n hn
    -- a count that is there is what the relation has written
    have hn' : (ofLines p lines).written r = n := by rw [written, hn, Option.getD_some]
    rw [hwrites, ← hwrittenOf, hn']
  · omega
  · have hle : (ofLines p lines).triplesWritten.toNat ≤ (ofLines p lines).triplesParsed.toNat := by
      omega
    have hsub : (ofLines p lines).discarded = .ok _ := if_pos hle
    refine ⟨_, hsub, ?_⟩
    rw [Count.toNat_of_sub_eq hsub]
    omega

section

variable {σ : Type} [Sink σ] {p : StatementParser} {interval : Count} {sink : σ}
  {items : List LineItem}

theorem LineItem.length_readable_le (items : List LineItem) :
    (readable items).length ≤ items.length := by
  induction items with
  | nil => exact Nat.le_refl 0
  | cons item items ih =>
    cases item with
    | error e => exact Nat.zero_le _
    | ok line => exact Nat.succ_le_succ ih

/-- **What ends an extraction** from fewer than 2^64 items is the first refusal of the sink, or else
the first item that is an error. -/
theorem result_extract_of_length_lt (hlen : items.length < 2 ^ 64) :
    (extract p interval sink items).result =
      match ((extractCalls p interval sink items).findSome? SinkCall.refusal?).or
        (LineItem.failure? items) with
      | none => .ok (Stats.ofLines p (LineItem.readable items))
      | some e => .error e := by
  have hle := LineItem.length_readable_le items
  have hlt : 0 + (LineItem.readable items).length < 2 ^ 64 := by omega
  obtain ⟨hcount, hend⟩ := LineItem.countable_and_ending_of_lt hlt
  rcases extractCalls_cases p interval sink items with
    ⟨hcalls, hresult⟩ | ⟨before, r, after, e, -, hcalls, -, hresult⟩
  · rw [hcount, hend] at hresult
    rw [hcalls, SinkCall.findSome?_refusal_map, Option.none_or]
    cases hfailure : LineItem.failure? items with
    | none => simpa [hfailure] using hresult
    | some e => simpa [hfailure] using hresult
  · rw [hresult, hcalls, List.findSome?_append, SinkCall.findSome?_refusal_map, Option.none_or]
    rfl

end

/-- **Counts are conserved.** An extraction from fewer than 2^64 items, into any sink and with any
progress interval, fails with the error of the sink's first refusal or of the first item that is
one, and otherwise ends well. In particular no arithmetic of its own fails. If it ends well, its
counters agree. -/
theorem counts_conserved {σ : Type} [Sink σ] (p : StatementParser) (interval : Count) (sink : σ)
    (items : List LineItem) (hlen : items.length < 2 ^ 64) :
    (∀ e, (extract p interval sink items).result = .error e ↔
      ((extractCalls p interval sink items).findSome? SinkCall.refusal?).or
        (LineItem.failure? items) = some e) ∧
    ((∀ c, LineItem.failure? items ≠ some (.arithmetic c)) →
      (∀ call ∈ extractCalls p interval sink items, ∀ c, call.refusal? ≠ some (.arithmetic c)) →
      ∀ c, (extract p interval sink items).result ≠ .error (.arithmetic c)) ∧
    ∀ stats, (extract p interval sink items).result = .ok stats →
      stats.Balanced p (LineItem.readable items) (extractCalls p interval sink items) := by
  have hiff : ∀ e, (extract p interval sink items).result = .error e ↔
      ((extractCalls p interval sink items).findSome? SinkCall.refusal?).or
        (LineItem.failure? items) = some e := by
    intro e
    rw [result_extract_of_length_lt hlen]
    cases ((extractCalls p interval sink items).findSome? SinkCall.refusal?).or
      (LineItem.failure? items) with
    | none => simp
    | some f => simp
  refine ⟨hiff, fun hitems hcalls c hc ↦ ?_, fun stats hok ↦ ?_⟩
  · rcases Option.or_eq_some_iff.1 ((hiff _).1 hc) with hrefused | ⟨-, hfailed⟩
    · obtain ⟨call, hmem, hcall⟩ := List.exists_of_findSome?_eq_some hrefused
      exact hcalls call hmem c hcall
    · exact hitems c hfailed
  · obtain ⟨hlines, -, rfl, -⟩ := of_extract_eq_ok hok
    rw [extractCalls_of_ok hok]
    exact Stats.balanced_ofLines p hlines

/-- A triple of a relation, a triple of none, and a line that is no triple. -/
def mixedItems : List LineItem :=
  [.ok "<Q1> <P22> <Q2> .", .ok "<Q1> <P31> <Q5> .", .ok "no triple"]

/-- The three lines are counted, and the one record is taken. -/
theorem counts_conserved_mixed :
    mixedItems.length < 2 ^ 64 ∧
      ∃ stats, (extract default 1 ({} : MemorySink) mixedItems).result = .ok stats ∧
        stats.linesRead = 3 ∧ stats.discarded = .ok 1 ∧
        stats.Balanced default (LineItem.readable mixedItems)
          (extractCalls default 1 ({} : MemorySink) mixedItems) := by
  have hlen : mixedItems.length < 2 ^ 64 := by decide
  have hok : (extract default 1 ({} : MemorySink) mixedItems).result =
      .ok (Stats.ofLines default (LineItem.readable mixedItems)) := by
    have hend : ((extractCalls default 1 ({} : MemorySink) mixedItems).findSome?
        SinkCall.refusal?).or (LineItem.failure? mixedItems) = none := by decide +kernel
    rw [result_extract_of_length_lt hlen, hend]
  obtain ⟨-, -, hbalanced⟩ := counts_conserved default 1 ({} : MemorySink) mixedItems hlen
  exact ⟨hlen, _, hok, rfl, by cbv, hbalanced _ hok⟩

end PersonRelations
