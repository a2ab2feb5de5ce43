import PersonRelations.Proofs.Statement.Fields
import PersonRelations.Proofs.Lines.ByteSplitter

/-!
# Columns of a row

A row is a subject, a tab and an object. It can be taken apart at its tab only if it has no other
one, and nothing sees to that: a tab is no margin of a field, so one inside a field stays, and
neither the parser nor a sink writes it differently.

`written_row_isTwoColumns_iff` says exactly which rows are affected. As long as no deleted word has
a tab in it, they are the rows of the lines with a tab between their margins; a line without one has
a good row whatever the words. `written_row_three_columns` is such a row: a literal that has a tab
in it.
-/

namespace PersonRelations

namespace Record

/-- The row has two columns: one tab, at which it comes apart into subject and object. -/
def IsTwoColumns (x : Record) : Prop :=
  x.row.toList.count '\t' = 1 ∧ x.row.toList.splitOn '\t' = [x.subject.toList, x.object.toList]

theorem toList_row (x : Record) : x.row.toList = x.subject.toList ++ '\t' :: x.object.toList := by
  rw [row, String.toList_append, String.toList_append, List.append_assoc]
  rfl

theorem count_row (x : Record) :
    x.row.toList.count '\t' = 1 + (x.subject.toList.count '\t' + x.object.toList.count '\t') := by
  rw [toList_row, List.count_append, List.count_cons_self]
  omega

theorem isTwoColumns_iff {x : Record} :
    x.IsTwoColumns ↔ '\t' ∉ x.subject.toList ∧ '\t' ∉ x.object.toList := by
  constructor
  · rintro ⟨hcount, -⟩
    rw [count_row] at hcount
    exact ⟨List.count_eq_zero.1 (by omega), List.count_eq_zero.1 (by omega)⟩
  · rintro ⟨hs, ho⟩
    refine ⟨?_, ?_⟩
    · rw [count_row, List.count_eq_zero.2 hs, List.count_eq_zero.2 ho]
    · rw [toList_row, List.splitOn_append_cons_self_of_not_mem hs, List.splitOn_eq_singleton ho]

end Record

namespace StatementParser

variable {p : StatementParser} {line : String} {x : Record}

theorem tab_notMem_code (r : Relation) : '\t' ∉ r.code.toList := by
  cases r <;> decide

/-- Subject and object have no more tabs than the line has between its margins. -/
theorem count_tab_le (h : p.record? line = some x) :
    x.subject.toList.count '\t' + x.object.toList.count '\t' ≤
      (Text.trim Statement.isLineMargin line.toList).count '\t' := by
  obtain ⟨a, b, c, hf, hs, -, ho⟩ := exists_fields_of_record? h
  have hsum := Statement.sum_count_fields (c := '\t') (by decide) line.toList
  rw [hf] at hsum
  have ha := Statement.count_normalize_le (p.prefixes.map String.toList) '\t' a
  have hc := Statement.count_normalize_le (p.prefixes.map String.toList) '\t' c
  rw [hs, ho, toList_normalize, toList_normalize]
  simp only [List.map_cons, List.map_nil, List.sum_cons, List.sum_nil] at hsum
  omega

/-- Where no deleted word has a tab, subject and object have all the tabs of the line: the code of
a relation between them has none. -/
theorem count_tab_eq (h : p.record? line = some x) (hp : ∀ w ∈ p.prefixes, '\t' ∉ w.toList) :
    x.subject.toList.count '\t' + x.object.toList.count '\t' =
      (Text.trim Statement.isLineMargin line.toList).count '\t' := by
  obtain ⟨a, b, c, hf, hs, hb, ho⟩ := exists_fields_of_record? h
  have hwords : ∀ w ∈ p.prefixes.map String.toList, '\t' ∉ w := by
    intro w hw
    obtain ⟨v, hv, rfl⟩ := List.mem_map.1 hw
    exact hp v hv
  have hfield : ∀ field, (p.normalize field).toList.count '\t' = field.count '\t' := by
    intro field
    rw [toList_normalize, Statement.count_normalize (by decide) hwords]
  have hsum := Statement.sum_count_fields (c := '\t') (by decide) line.toList
  -- the middle field is the code of a relation, so no tab is lost with it
  have hcode : b.count '\t' = 0 := by
    rw [← hfield, ← hb]
    exact List.count_eq_zero.2 (tab_notMem_code x.relation)
  rw [hf] at hsum
  rw [hs, ho, hfield, hfield, ← hsum]
  simp only [List.map_cons, List.map_nil, List.sum_cons, List.sum_nil, hcode]
  omega

end StatementParser

/-- **Which rows have two columns.** A row that an extraction writes comes from a line of the
source, and it has two columns exactly when no tab is left in its subject and its object. That is so
whenever the line has no tab between its margins, and, if no deleted word has a tab, only then. -/
theorem written_row_isTwoColumns_iff (s : Source) (p : StatementParser) (interval : Count)
    (r : Relation) (x : Record)
    (hx : x ∈ (extract p interval ({} : MemorySink) s.lines).sink.records.toList)
    (hr : x.relation = r) :
    ∃ line ∈ LineItem.readable s.lines, p.record? line = some x ∧
      x.row ∈ (extract p interval ({} : MemorySink) s.lines).sink.lines r ∧
      (x.IsTwoColumns ↔ '\t' ∉ x.subject.toList ∧ '\t' ∉ x.object.toList) ∧
      ('\t' ∉ Text.trim Statement.isLineMargin line.toList → x.IsTwoColumns) ∧
      ((∀ w ∈ p.prefixes, '\t' ∉ w.toList) →
        (x.IsTwoColumns ↔ '\t' ∉ Text.trim Statement.isLineMargin line.toList)) := by
  have hmem := hx
  rw [records_extract] at hmem
  obtain ⟨line, hline, hrec⟩ := List.mem_filterMap.1 hmem
  refine ⟨line, (LineItem.countable_prefix 0 _).subset hline, hrec, ?_, Record.isTwoColumns_iff,
    fun htab ↦ ?_, fun hp ↦ ?_⟩
  · exact List.mem_map.2 ⟨x, List.mem_filter.2 ⟨hx, by simpa using hr⟩, rfl⟩
  · have hle := StatementParser.count_tab_le hrec
    rw [List.count_eq_zero.2 htab] at hle
    exact Record.isTwoColumns_iff.2
      ⟨List.count_eq_zero.1 (by omega), List.count_eq_zero.1 (by omega)⟩
  · have heq := StatementParser.count_tab_eq hrec hp
    rw [Record.isTwoColumns_iff, ← List.count_eq_zero, ← List.count_eq_zero,
      ← List.count_eq_zero, ← heq]
    omega

/-- A statement whose object is a literal with a tab in it. -/
def tabbedStatement : Source :=
  .ofBytes "<Q1> <P21> \"some\ttext\" .\n".toUTF8.data.toList

/-- The row of the statement comes apart into three columns. -/
theorem written_row_three_columns :
    (extract default 0 ({} : MemorySink) tabbedStatement.lines).sink.lines .hasGender =
        ["Q1\t\"some\ttext\""] ∧
      ("Q1\t\"some\ttext\"".toList.splitOn '\t').length = 3 := by
  decide +kernel

/-- A statement with a tab at its margin, which is trimmed. -/
def tabMarginStatement : Source :=
  .ofBytes "\t<Q1> <P21> \"some text\"\t.\n".toUTF8.data.toList

/-- The row of the statement has two columns, since its line has no tab between its margins. -/
theorem written_row_tab_margin :
    ∃ line ∈ LineItem.readable tabMarginStatement.lines,
      line = "\t<Q1> <P21> \"some text\"\t." ∧
        (⟨.hasGender, "Q1", "\"some text\""⟩ : Record).IsTwoColumns := by
  obtain ⟨line, hline, hrec, -, -, htwo, -⟩ := written_row_isTwoColumns_iff tabMarginStatement
    default 0 .hasGender ⟨.hasGender, "Q1", "\"some text\""⟩ (by decide +kernel) rfl
  have hread : LineItem.readable tabMarginStatement.lines =
      ["\t<Q1> <P21> \"some text\"\t."] := by decide +kernel
  rw [hread, List.mem_singleton] at hline
  subst hline
  exact ⟨_, by rw [hread]; exact List.mem_singleton_self _, rfl, htwo (by decide +kernel)⟩

end PersonRelations
