import Mathlib
import PersonRelations.Stats

/-!
# Recording a pair changes both its counts or nothing

`Stats.record` counts a pair twice, among all pairs and then among those of its relation. Either
count may be full. If the second one were, the first would have been changed already, and the
counters would no longer agree.

This does not happen as long as the total is the sum of the relations' counts
(`Stats.IsTotalled`): then no count is larger than the total, so there is room for one pair more in
every count if there is in the total (`Stats.IsTotalled.exists_succ_written`). What a call does is
said once (`Stats.record_cases`), and the equation is kept along every sequence of calls
(`Stats.isTotalled_recordAll`), whether all of them succeed or not.
-/

namespace PersonRelations

/-- A count is full, or there is one that is larger by one. -/
theorem Count.succ_cases (n : Count) :
    (n.toNat = 2 ^ 64 - 1 ∧ n.succ = .error .addOverflow) ∨
      ∃ m, n.succ = .ok m ∧ m.toNat = n.toNat + 1 := by
  by_cases h : n.toNat + 1 < UInt64.size
  · have hsucc : n.succ = .ok (n + 1) := if_pos h
    exact Or.inr ⟨n + 1, hsucc, toNat_of_succ_eq hsucc⟩
  · have hsize : UInt64.size = 2 ^ 64 := rfl
    have hlt := n.toNat_lt
    exact Or.inl ⟨by omega, if_neg h⟩

namespace Stats

/-! ### The total and the relations' counts -/

/-- The total is the sum of the relations' counts, as numbers without a bound. -/
def IsTotalled (s : Stats) : Prop :=
  s.triplesWritten.toNat = (s.relationCounts.map fun x ↦ x.2.toNat).sum

instance (s : Stats) : Decidable s.IsTotalled :=
  inferInstanceAs (Decidable (_ = _))

/-- A relation without a count has written nothing. -/
theorem sum_relationCounts (s : Stats) :
    (s.relationCounts.map fun x ↦ x.2.toNat).sum =
      (Relation.all.map fun r ↦ (s.written r).toNat).sum := by
  rw [relationCounts, Relation.Table.toList]
  induction Relation.all with
  | nil => rfl
  | cons r rs ih =>
    rw [List.map_cons, List.map_cons, List.sum_cons, ← ih, written]
    cases hr : s.perRelation.get r with
    | none => simp
    | some n => simp

variable {s t : Stats} {r : Relation} {total n : Count}

theorem isTotalled_iff :
    s.IsTotalled ↔ s.triplesWritten.toNat = (Relation.all.map fun r ↦ (s.written r).toNat).sum := by
  rw [IsTotalled, sum_relationCounts]

/-- No relation has written more than all of them together. -/
theorem IsTotalled.written_le (h : s.IsTotalled) (r : Relation) :
    (s.written r).toNat ≤ s.triplesWritten.toNat := by
  rw [isTotalled_iff.1 h, ← List.sum_map_erase _ (Relation.mem_all r)]
  exact Nat.le_add_right _ _

/-- **Where the total has room, so has every count.** -/
theorem IsTotalled.exists_succ_written (h : s.IsTotalled)
    (htotal : s.triplesWritten.succ = .ok total) (r : Relation) :
    ∃ n, (s.written r).succ = .ok n ∧ n.toNat = (s.written r).toNat + 1 := by
  have hle := h.written_le r
  have hgrown := Count.toNat_of_succ_eq htotal
  have hlt := total.toNat_lt
  refine (Count.succ_cases (s.written r)).resolve_left fun ⟨hfull, _⟩ ↦ ?_
  omega

/-- One count more for one relation is one more in the sum, since each relation is in the table
once. -/
theorem sum_written_succ (hself : (t.written r).toNat = (s.written r).toNat + 1)
    (hother : ∀ q, q ≠ r → t.written q = s.written q) :
    (Relation.all.map fun q ↦ (t.written q).toNat).sum =
      (Relation.all.map fun q ↦ (s.written q).toNat).sum + 1 := by
  have hrest : (Relation.all.erase r).map (fun q ↦ (t.written q).toNat) =
      (Relation.all.erase r).map fun q ↦ (s.written q).toNat := by
    refine List.map_congr_left fun q hq ↦ ?_
    rw [hother q (Relation.nodup_all.mem_erase_iff.1 hq).1]
  have hs := List.sum_map_erase (fun q ↦ (s.written q).toNat) (Relation.mem_all r)
  have ht := List.sum_map_erase (fun q ↦ (t.written q).toNat) (Relation.mem_all r)
  rw [hself, hrest] at ht
  omega

/-! ### One call -/

theorem record_of_succ (htotal : s.triplesWritten.succ = .ok total)
    (hn : (s.written r).succ = .ok n) :
    s.record r =
      ({ s with triplesWritten := total, perRelation := s.perRelation.set r (some n) }, none) := by
  simp only [record, htotal, hn]

/-- `t` is `s` with one pair more for the relation. -/
structure OneMore (s : Stats) (r : Relation) (t : Stats) : Prop where
  /-- The counters agree. -/
  isTotalled : t.IsTotalled
  /-- The pair is counted among all pairs. -/
  triplesWritten_eq : t.triplesWritten.toNat = s.triplesWritten.toNat + 1
  /-- It is counted among those of its relation. -/
  written_self : (t.written r).toNat = (s.written r).toNat + 1
  /-- It is counted for no other relation. -/
  written_of_ne : ∀ q, q ≠ r → t.written q = s.written q
  linesRead_eq : t.linesRead = s.linesRead
  triplesParsed_eq : t.triplesParsed = s.triplesParsed
  malformedLines_eq : t.malformedLines = s.malformedLines
  elapsedMs_eq : t.elapsedMs = s.elapsedMs

/-- Counters that agree do so with one more in both places. -/
theorem IsTotalled.oneMore (h : s.IsTotalled) (htotal : total.toNat = s.triplesWritten.toNat + 1)
    (hn : n.toNat = (s.written r).toNat + 1)
    (ht : t = { s with triplesWritten := total, perRelation := s.perRelation.set r (some n) }) :
    s.OneMore r t := by
  have hself : (t.written r).toNat = (s.written r).toNat + 1 := by
    rw [ht, written, Relation.Table.get_set_self, Option.getD_some, hn]
  have hother : ∀ q, q ≠ r → t.written q = s.written q := by
    intro q hq
    rw [ht, written, Relation.Table.get_set_of_ne _ hq, written]
  have hgrown : t.triplesWritten.toNat = s.triplesWritten.toNat + 1 := by
    rw [ht, htotal]
  have hsum : t.IsTotalled := by
    rw [isTotalled_iff, sum_written_succ hself hother, ← isTotalled_iff.1 h, hgrown]
  subst ht
  exact ⟨hsum, hgrown, hself, hother, rfl, rfl, rfl, rfl⟩

/-- **What a call does** to counters that agree: nothing if the total is full, and otherwise it
counts the pair. -/
theorem record_cases (h : s.IsTotalled) (r : Relation) :
    (s.triplesWritten.toNat = 2 ^ 64 - 1 ∧ s.record r = (s, some .addOverflow)) ∨
      ∃ t, s.triplesWritten.toNat ≠ 2 ^ 64 - 1 ∧ s.record r = (t, none) ∧ s.OneMore r t := by
  rcases Count.succ_cases s.triplesWritten with ⟨hfull, herror⟩ | ⟨total, htotal, hgrown⟩
  · exact Or.inl ⟨hfull, by simp only [record, herror]⟩
  · -- the second addition cannot fail once the first has not
    obtain ⟨n, hn, hsucc⟩ := h.exists_succ_written htotal r
    have hlt := total.toNat_lt
    exact Or.inr ⟨_, by omega, record_of_succ htotal hn, h.oneMore hgrown hsucc rfl⟩

/-! ### Sequences of calls -/

/-- The counters after one call for each relation of a sequence. A call that fails leaves what it
has changed, and the next one goes on from there. -/
def recordAll (s : Stats) (rs : List Relation) : Stats :=
  rs.foldl (fun s r ↦ (s.record r).1) s

theorem isTotalled_default : ({} : Stats).IsTotalled := by
  decide

theorem IsTotalled.record (h : s.IsTotalled) (r : Relation) : (s.record r).1.IsTotalled := by
  rcases record_cases h r with ⟨-, hrecord⟩ | ⟨t, -, hrecord, hmore⟩
  · rwa [hrecord]
  · rw [hrecord]
    exact hmore.isTotalled

/-- **The total stays the sum** along every sequence of calls. -/
theorem isTotalled_recordAll (h : s.IsTotalled) (rs : List Relation) :
    (s.recordAll rs).IsTotalled := by
  induction rs generalizing s with
  | nil => exact h
  | cons r rs ih => exact ih (h.record r)

end Stats

/-- **Recording counts a pair twice or not at all.** Let the total of the counters be the sum of the
relations' counts.

* Recording a pair fails exactly if the total is 2^64 - 1.
* If it fails, no counter has changed.
* If it succeeds, the total is the sum of the counts again, the count of the pair's relation is
  larger by one, those of the other relations are what they were, and so are the counters that have
  nothing to do with pairs.
* After any sequence of calls from counters at zero, the total is the sum of the counts, and a call
  that has added to the total can add to the count of its relation. -/
theorem record_all_or_nothing (s : Stats) (r : Relation) (h : s.IsTotalled) :
    ((∃ e, (s.record r).2 = some e) ↔ s.triplesWritten.toNat = 2 ^ 64 - 1) ∧
    (∀ e, (s.record r).2 = some e → e = .addOverflow ∧ (s.record r).1 = s) ∧
    ((s.record r).2 = none → s.OneMore r (s.record r).1) ∧
    ∀ rs : List Relation, (Stats.recordAll {} rs).IsTotalled ∧
      ∀ q total, (Stats.recordAll {} rs).triplesWritten.succ = .ok total →
        ∃ n, ((Stats.recordAll {} rs).written q).succ = .ok n := by
  have hsequence : ∀ rs : List Relation, (Stats.recordAll {} rs).IsTotalled ∧
      ∀ q total, (Stats.recordAll {} rs).triplesWritten.succ = .ok total →
        ∃ n, ((Stats.recordAll {} rs).written q).succ = .ok n := by
    intro rs
    have htotalled := Stats.isTotalled_recordAll Stats.isTotalled_default rs
    refine ⟨htotalled, fun q total htotal ↦ ?_⟩
    obtain ⟨n, hn, -⟩ := htotalled.exists_succ_written htotal q
    exact ⟨n, hn⟩
  rcases Stats.record_cases h r with ⟨hfull, hrecord⟩ | ⟨t, hroom, hrecord, hmore⟩
  · rw [hrecord]
    refine ⟨⟨fun _ ↦ hfull, fun _ ↦ ⟨_, rfl⟩⟩, fun e he ↦ ?_, fun hnone ↦ ?_, hsequence⟩
    · exact ⟨(Option.some.inj he).symm, rfl⟩
    · exact absurd hnone (Option.some_ne_none _)
  · rw [hrecord]
    have hnone : ∀ e, (none : Option ArithmeticError) ≠ some e :=
      fun e ↦ (Option.some_ne_none e).symm
    refine ⟨⟨?_, fun hfull ↦ absurd hfull hroom⟩, fun e he ↦ absurd he (hnone e), fun _ ↦ hmore,
      hsequence⟩
    rintro ⟨e, he⟩
    exact absurd he (hnone e)

/-- Counters with room for one pair more. -/
def nearlyFullStats : Stats where
  triplesWritten := 18446744073709551614
  perRelation := ((Relation.Table.replicate none).set .hasFather
    (some 18446744073709551613)).set .hasMother (some 1)

/-- The last pair that there is room for is counted, and the next call changes nothing. -/
theorem record_all_or_nothing_nearlyFull :
    nearlyFullStats.IsTotalled ∧
      nearlyFullStats.OneMore .hasFather (nearlyFullStats.record .hasFather).1 ∧
      ((nearlyFullStats.record .hasFather).1.record .hasMother).2 = some .addOverflow ∧
      ((nearlyFullStats.record .hasFather).1.record .hasMother).1 =
        (nearlyFullStats.record .hasFather).1 := by
  have htotalled : nearlyFullStats.IsTotalled := by decide
  obtain ⟨-, -, hcounted, -⟩ := record_all_or_nothing nearlyFullStats .hasFather htotalled
  have hmore := hcounted (by decide)
  obtain ⟨-, hfailed, -⟩ := record_all_or_nothing _ .hasMother hmore.isTotalled
  have hoverflow : ((nearlyFullStats.record .hasFather).1.record .hasMother).2 =
      some .addOverflow := by decide
  exact ⟨htotalled, hmore, hoverflow, (hfailed _ hoverflow).2⟩

/-- Counters that do not agree can be left half changed. -/
example :
    let counts := (Relation.Table.replicate none).set .hasFather (some 18446744073709551615)
    ({ perRelation := counts } : Stats).record .hasFather =
      ({ triplesWritten := 1, perRelation := counts }, some .addOverflow) := by
  decide

end PersonRelations
