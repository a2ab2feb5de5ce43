import PersonRelations.Proofs.Lines.ByteSplitter
import PersonRelations.Proofs.Output.SinkAgreement
import PersonRelations.Proofs.Statement.Fields

/-!
# Framing

A relation file is taken apart at its line feeds. Nothing is escaped on the way into it, so that
this gives the rows back has to come from the other end of the program:

* the reader cuts lines at every terminator, and a line has none left in it, wherever the chunks end
  and whatever was swallowed (`Source.unbroken_of_mem_lines`);
* trimming, cutting and deleting words take characters away, so that a field has those of its line
  only (`StatementParser.mem_of_record?`), whatever the words;
* the bytes of a text are those of its characters, so no terminator comes from encoding it
  (`mem_toUTF8_iff`).

`Unbroken` is what is carried along. `output_framed` is the result for the files of an extraction.
-/

namespace PersonRelations

/-- None of the bytes ends a line. -/
def Unbroken (bytes : List UInt8) : Prop :=
  ∀ b ∈ bytes, isTerminator b = false

/-! ### Lines -/

namespace ByteSplitter

variable {a : ByteSplitter} {line : String}

/-- What a step leaves: a line without terminators, if it gives one, and none among the pending
bytes. -/
def LeavesUnbroken (next : Option LineItem × Option ByteSplitter) : Prop :=
  (∀ line, next.1 = some (.ok line) → Unbroken line.toUTF8.data.toList) ∧
    ∀ a, next.2 = some a → Unbroken a.pending

theorem leavesUnbroken_emit (ha : Unbroken a.pending) (afterReturn : Bool) :
    LeavesUnbroken (a.emit afterReturn) := by
  rw [emit]
  split
  · rename_i line hline
    refine ⟨?_, ?_⟩
    · rintro _ ⟨⟩
      rw [← Text.Utf8.decode_eq_ok_iff.1 hline]
      simpa using ha
    · rintro _ ⟨⟩
      exact fun b hb ↦ absurd hb List.not_mem_nil
  · refine ⟨?_, ?_⟩ <;> rintro _ ⟨⟩

/-- **One event.** A terminator never becomes pending: it ends the line or is swallowed. -/
theorem leavesUnbroken_step (ha : Unbroken a.pending) (e : Source.Event) :
    LeavesUnbroken (a.step e) := by
  cases e with
  | byte b =>
    rw [step]
    split
    · refine ⟨by simp, ?_⟩
      rintro _ ⟨⟩
      exact ha
    · split
      · exact leavesUnbroken_emit ha _
      · rename_i hb
        refine ⟨by simp, ?_⟩
        rintro _ ⟨⟩ c hc
        rcases List.mem_append.1 hc with hpending | hnew
        · exact ha c hpending
        · rw [List.mem_singleton.1 hnew]
          simpa using hb
  | endMark =>
    rw [step]
    split
    · exact ⟨by simp, by simp⟩
    · exact leavesUnbroken_emit ha _
  | failure f => exact ⟨by simp [step], by simp [step]⟩

/-- **All events.** -/
theorem unbroken_of_mem_items (ha : Unbroken a.pending) {es : List Source.Event}
    (h : .ok line ∈ a.items es) : Unbroken line.toUTF8.data.toList := by
  induction es generalizing a with
  | nil =>
    rw [items, Option.mem_toList] at h
    exact (leavesUnbroken_step ha .endMark).1 line h
  | cons e es ih =>
    obtain ⟨hline, hnext⟩ := leavesUnbroken_step ha e
    rw [items_cons, resume, List.mem_append, Option.mem_toList] at h
    rcases h with hnow | hlater
    · exact hline line hnow
    · cases hstep : (a.step e).2 with
      | none => simp [hstep] at hlater
      | some a' =>
        rw [hstep] at hlater
        exact ih (hnext a' hstep) hlater

end ByteSplitter

/-- **No line has a terminator in it.** -/
theorem Source.unbroken_of_mem_lines {s : Source} {line : String} (h : .ok line ∈ s.lines) :
    Unbroken line.toUTF8.data.toList := by
  rw [Source.lines_eq_items] at h
  exact ByteSplitter.unbroken_of_mem_items (fun b hb ↦ absurd hb List.not_mem_nil) h

theorem LineItem.mem_of_mem_readable {items : List LineItem} {line : String}
    (h : line ∈ readable items) : .ok line ∈ items := by
  induction items with
  | nil => cases h
  | cons item items ih =>
    cases item with
    | error e => cases h
    | ok l =>
      rcases List.mem_cons.1 h with rfl | hrest
      · exact List.mem_cons_self
      · exact List.mem_cons_of_mem _ (ih hrest)

/-! ### Fields -/

/-- The bytes of a text are those of its characters. -/
theorem mem_toUTF8_iff {s : String} {b : UInt8} :
    b ∈ s.toUTF8.data.toList ↔ ∃ c ∈ s.toList, b ∈ String.utf8EncodeChar c := by
  rw [String.toUTF8_eq_toByteArray, ← String.utf8Encode_toList, List.utf8Encode,
    List.data_toByteArray]
  simp

/-- A text has no terminator among its characters if it has none among its bytes. -/
theorem Unbroken.notMem {s : String} (h : Unbroken s.toUTF8.data.toList) :
    '\n' ∉ s.toList ∧ '\r' ∉ s.toList := by
  refine ⟨fun hn ↦ ?_, fun hr ↦ ?_⟩
  · exact absurd (h lineFeed (mem_toUTF8_iff.2 ⟨_, hn, by decide⟩)) (by decide)
  · exact absurd (h carriageReturn (mem_toUTF8_iff.2 ⟨_, hr, by decide⟩)) (by decide)

/-- Characters of a text without terminators make no terminator. -/
theorem Unbroken.of_subset {s part : String} (h : Unbroken s.toUTF8.data.toList)
    (hpart : ∀ c ∈ part.toList, c ∈ s.toList) : Unbroken part.toUTF8.data.toList := by
  intro b hb
  obtain ⟨c, hc, hbc⟩ := mem_toUTF8_iff.1 hb
  exact h b (mem_toUTF8_iff.2 ⟨c, hpart c hc, hbc⟩)

namespace Statement

/-- Three fields make up the line between its margins. -/
theorem mem_of_fields {line a b d : List Char} (hf : fields line = [a, b, d]) {c : Char}
    (h : c ∈ a ∨ c ∈ d) : c ∈ line := by
  have hcut : [' '].intercalate (fields line) = _ :=
    Text.intercalate_cut ' ' 2 (Text.trim isLineMargin line)
  obtain ⟨before, behind, hline, -, -⟩ := Text.exists_eq_append_trim isLineMargin line
  rw [hline, ← hcut, hf]
  rcases h with h | h
  · simp [h]
  · simp [h]

end Statement

namespace StatementParser

variable {p : StatementParser} {line : String} {x : Record}

/-- **Subject and object** have the characters of their line only, whatever is deleted. -/
theorem mem_of_record? (h : p.record? line = some x) {c : Char}
    (hc : c ∈ x.subject.toList ∨ c ∈ x.object.toList) : c ∈ line.toList := by
  obtain ⟨a, b, d, hf, hs, -, ho⟩ := exists_fields_of_record? h
  rw [hs, ho, toList_normalize, toList_normalize] at hc
  exact Statement.mem_of_fields hf
    (hc.imp Statement.mem_of_mem_normalize Statement.mem_of_mem_normalize)

theorem unbroken_of_record? (h : p.record? line = some x)
    (hline : Unbroken line.toUTF8.data.toList) :
    Unbroken x.subject.toUTF8.data.toList ∧ Unbroken x.object.toUTF8.data.toList :=
  ⟨hline.of_subset fun _ hc ↦ mem_of_record? h (Or.inl hc),
    hline.of_subset fun _ hc ↦ mem_of_record? h (Or.inr hc)⟩

end StatementParser

/-- **No record that is handed to a sink** has a terminator in its subject or its object. -/
theorem unbroken_of_mem_extractCalls {σ : Type} [Sink σ] {p : StatementParser} {interval : Count}
    {sink : σ} {s : Source} {c : SinkCall} (hc : c ∈ extractCalls p interval sink s.lines) :
    Unbroken c.record.subject.toUTF8.data.toList ∧
      Unbroken c.record.object.toUTF8.data.toList := by
  obtain ⟨line, hline, hrec⟩ := exists_line_of_mem_extractCalls hc
  exact StatementParser.unbroken_of_record? hrec
    (Source.unbroken_of_mem_lines (LineItem.mem_of_mem_readable hline))

/-! ### Rows -/

/-- The rows, each with a line feed. -/
def frames (rows : List (List UInt8)) : List UInt8 :=
  rows.flatMap fun row ↦ row ++ [lineFeed]

section

variable {rows : List (List UInt8)}

theorem Unbroken.lineFeed_notMem {bytes : List UInt8} (h : Unbroken bytes) : lineFeed ∉ bytes :=
  fun hmem ↦ absurd (h lineFeed hmem) (by decide)

/-- There is one line feed for each row. -/
theorem count_lineFeed_frames (h : ∀ row ∈ rows, Unbroken row) :
    (frames rows).count lineFeed = rows.length := by
  induction rows with
  | nil => rfl
  | cons row rows ih =>
    have hrow := List.count_eq_zero.2 (h row List.mem_cons_self).lineFeed_notMem
    have hrest := ih fun r hr ↦ h r (List.mem_cons_of_mem row hr)
    rw [frames, List.flatMap_cons, List.count_append, List.count_append, hrow, ← frames, hrest,
      List.length_cons, List.count_singleton_self]
    omega

theorem carriageReturn_notMem_frames (h : ∀ row ∈ rows, Unbroken row) :
    carriageReturn ∉ frames rows := by
  intro hmem
  obtain ⟨row, hrow, hin⟩ := List.mem_flatMap.1 hmem
  rcases List.mem_append.1 hin with hb | hb
  · exact absurd (h row hrow carriageReturn hb) (by decide)
  · exact absurd (List.mem_singleton.1 hb) (by decide)

/-- **Splitting at line feeds** gives the rows back. Behind the last one there is nothing. -/
theorem splitOn_frames (h : ∀ row ∈ rows, Unbroken row) :
    (frames rows).splitOn lineFeed = rows ++ [[]] := by
  induction rows with
  | nil => rfl
  | cons row rows ih =>
    have hrow := (h row List.mem_cons_self).lineFeed_notMem
    have hrest := ih fun r hr ↦ h r (List.mem_cons_of_mem row hr)
    rw [frames, List.flatMap_cons, ← frames, List.append_assoc, List.singleton_append,
      List.splitOn_append_cons_self_of_not_mem hrow, hrest, List.cons_append]

end

namespace Record

/-- A row has no terminator if its columns have none. -/
theorem unbroken_row {x : Record} (hs : Unbroken x.subject.toUTF8.data.toList)
    (ho : Unbroken x.object.toUTF8.data.toList) : Unbroken x.row.toUTF8.data.toList := by
  have htab : "\t".toByteArray.data.toList = [9] := by decide +kernel
  have hrow : x.row.toUTF8.data.toList =
      x.subject.toUTF8.data.toList ++ 9 :: x.object.toUTF8.data.toList := by
    simp [row, htab]
  intro b hb
  rw [hrow, List.mem_append, List.mem_cons] at hb
  rcases hb with hb | rfl | hb
  · exact hs b hb
  · rfl
  · exact ho b hb

/-- The text of records has a frame for each row. -/
theorem toList_text (rs : List Record) :
    (text rs).data.toList = frames (rs.map fun x ↦ x.row.toUTF8.data.toList) := by
  have hfeed : "\n".toByteArray.data.toList = [lineFeed] := by decide +kernel
  induction rs with
  | nil => rfl
  | cons x rs ih =>
    rw [← List.singleton_append, text_append, ByteArray.data_append, Array.toList_append, ih]
    simp [text, frames, hfeed]

/-- **The text of a relation** has its rows between its line feeds, if no row has a terminator. -/
theorem framed_textOf {rs : List Record} (h : ∀ x ∈ rs, Unbroken x.row.toUTF8.data.toList)
    (r : Relation) :
    (textOf r rs).data.toList.count lineFeed = (rs.filter fun x ↦ x.relation = r).length ∧
      carriageReturn ∉ (textOf r rs).data.toList ∧
      (textOf r rs).data.toList.splitOn lineFeed =
        ((rs.filter fun x ↦ x.relation = r).map fun x ↦ x.row.toUTF8.data.toList) ++ [[]] := by
  have hrows : ∀ row ∈ (rs.filter fun x ↦ x.relation = r).map
      fun x ↦ x.row.toUTF8.data.toList, Unbroken row := by
    intro row hrow
    obtain ⟨x, hx, rfl⟩ := List.mem_map.1 hrow
    exact h x (List.mem_filter.1 hx).1
  rw [textOf, toList_text]
  refine ⟨?_, carriageReturn_notMem_frames hrows, splitOn_frames hrows⟩
  rw [count_lineFeed_frames hrows, List.length_map]

end Record

/-! ### Extractions into files -/

theorem unbroken_row_of_mem_taken {σ : Type} [Sink σ] {p : StatementParser} {interval : Count}
    {sink : σ} {s : Source} {x : Record}
    (hx : x ∈ SinkCall.taken (extractCalls p interval sink s.lines)) :
    Unbroken x.row.toUTF8.data.toList := by
  obtain ⟨c, hc, rfl⟩ := List.mem_map.1 hx
  obtain ⟨hsubject, hobject⟩ := unbroken_of_mem_extractCalls (List.mem_filter.1 hc).1
  exact Record.unbroken_row hsubject hobject

namespace SinkCall

/-- A relation of which nothing was refused has the text of the records that were taken. -/
theorem textOf_taken {calls : List SinkCall} {r : Relation}
    (h : ∀ c ∈ calls, c.refusal? ≠ none → c.record.relation ≠ r) :
    Record.textOf r (calls.map record) = Record.textOf r (taken calls) := by
  rw [Record.textOf, Record.textOf, taken, List.filter_map, List.filter_map, List.filter_filter]
  refine congrArg (fun l ↦ Record.text (l.map record)) (List.filter_congr fun c hc ↦ ?_)
  cases hcall : c.refusal? with
  | none => simp
  | some e => simpa using h c hc (by simp [hcall])

end SinkCall

namespace RelationFiles

variable {x : RelationFiles} {t : FileTree} {dir : Path} {target : Relation → Target}
  {p : StatementParser} {interval : Count} {items : List LineItem}

/-- Only records for full devices are refused. -/
theorem full_of_refused (h : ∀ r, OpenedIn dir x.tree x.files r) (hext : x.tree.Extends t)
    (hto : t.LeadsTo dir target) {c : SinkCall} (hc : c ∈ extractCalls p interval x items)
    (hrefused : c.refusal? ≠ none) : target c.record.relation = .full := by
  rcases extractCalls_cases p interval x items with
    ⟨hcalls, -⟩ | ⟨before, r, after, e, -, hcalls, he, -⟩
  · rw [hcalls] at hc
    obtain ⟨y, -, rfl⟩ := List.mem_map.1 hc
    exact absurd rfl hrefused
  · rw [hcalls, List.mem_append] at hc
    rcases hc with hc | hc
    · obtain ⟨y, -, rfl⟩ := List.mem_map.1 hc
      exact absurd rfl hrefused
    · obtain ⟨data, hserving, -⟩ := servingCalls_of_opened h hext hto before
      rw [List.mem_singleton.1 hc]
      exact (eq_of_write_eq_some hserving he).1

/-- If the paths lead to files, an extraction into them makes the calls that one into memory
makes. -/
theorem taken_of_files (h : ∀ r, OpenedIn dir x.tree x.files r) (hext : x.tree.Extends t)
    (hto : t.LeadsTo dir target) (hfiles : ∀ r, target r ≠ .full) :
    SinkCall.taken (extractCalls p interval x items) =
      (extract p interval ({} : MemorySink) items).sink.records.toList := by
  rw [records_extract]
  rcases extractCalls_cases p interval x items with
    ⟨hcalls, -⟩ | ⟨before, r, after, e, -, hcalls, -, -⟩
  · rw [hcalls, SinkCall.taken_map]
  · have hmem : (⟨r, some e⟩ : SinkCall) ∈ extractCalls p interval x items := by
      rw [hcalls]
      exact List.mem_append_right _ List.mem_cons_self
    exact absurd (full_of_refused h hext hto hmem (Option.some_ne_none e)) (hfiles r.relation)

end RelationFiles

/-- **Output is framed.** An extraction reads the lines of a source, whatever its chunks, and writes
into files that were just opened. The paths of the relations lead to different files and to full
devices; the extraction ends well or not.

No subject and no object that it hands to its sink, or would hand to any other, has a line feed or a
carriage return in it. A relation's file is the same whether it is finished or given up. It has one
line feed for each record that was taken for the relation, which is the relation's count if the
extraction ends well, and no carriage return. Splitting it at line feeds gives the rows of a memory
that has taken the same records, and nothing behind the last line feed; if no path leads to a full
device, that is the memory which an extraction from the same source fills. -/
theorem output_framed (s : Source) (p : StatementParser) (interval : Count) (t : FileTree)
    (dir : Path) (makeDir : Bool) (files : RelationFiles)
    (hopened : RelationFiles.createIn t dir makeDir = .opened files) (target : Relation → Target)
    (hto : files.tree.LeadsTo dir target) :
    (∀ (σ : Type) [Sink σ] (sink : σ), ∀ c ∈ extractCalls p interval sink s.lines,
      ('\n' ∉ c.record.subject.toList ∧ '\r' ∉ c.record.subject.toList) ∧
        '\n' ∉ c.record.object.toList ∧ '\r' ∉ c.record.object.toList) ∧
    ∃ memory : MemorySink,
      Sink.writeAll ({} : MemorySink) (SinkCall.taken (extractCalls p interval files s.lines)) =
        (memory, none) ∧
      ((∀ r, target r ≠ .full) →
        memory = (extract p interval ({} : MemorySink) s.lines).sink) ∧
      (extract p interval files s.lines).sink.finish.1 =
        (extract p interval files s.lines).sink.close ∧
      ∀ r, target r ≠ .full → ∃ content,
        (extract p interval files s.lines).sink.close.openRead (dir.join r.name) =
          .ok (.file content) ∧
        content.data.toList.count lineFeed =
          SinkCall.writes (extractCalls p interval files s.lines) r ∧
        (∀ stats, (extract p interval files s.lines).result = .ok stats →
          content.data.toList.count lineFeed = (stats.written r).toNat) ∧
        carriageReturn ∉ content.data.toList ∧
        content.data.toList.splitOn lineFeed =
          (memory.lines r).map (fun row ↦ row.toUTF8.data.toList) ++ [[]] := by
  have hopen := RelationFiles.opened_of_createIn hopened
  have hrefl := FileTree.Extends.refl files.tree
  refine ⟨fun σ _ sink c hc ↦ ?_, _, MemorySink.writeAll_eq _ _, fun hfiles ↦ ?_,
    RelationFiles.tree_finish _, fun r hr ↦ ?_⟩
  · obtain ⟨hsubject, hobject⟩ := unbroken_of_mem_extractCalls hc
    exact ⟨hsubject.notMem, hobject.notMem⟩
  · rw [RelationFiles.taken_of_files hopen hrefl hto hfiles]
    simp
  · -- what was refused is of other relations
    have hothers : ∀ c ∈ extractCalls p interval files s.lines, c.refusal? ≠ none →
        c.record.relation ≠ r := by
      rintro c hc hrefused rfl
      exact hr (RelationFiles.full_of_refused hopen hrefl hto hc hrefused)
    have hread := RelationFiles.openRead_close_writeEach hopen hrefl hto
      ((extractCalls p interval files s.lines).map SinkCall.record) hr
    rw [← sink_extract_eq_writeEach, SinkCall.textOf_taken hothers] at hread
    have hrows : ∀ x ∈ SinkCall.taken (extractCalls p interval files s.lines),
        Unbroken x.row.toUTF8.data.toList := fun x hx ↦ unbroken_row_of_mem_taken hx
    obtain ⟨hcount, hreturn, hsplit⟩ := Record.framed_textOf hrows r
    refine ⟨_, hread, hcount, fun stats hok ↦ ?_, hreturn, ?_⟩
    · rw [hcount, toNat_written_of_ok hok, SinkCall.writes]
    · rw [hsplit]
      simp [MemorySink.lines]

/-- Three statements. A carriage return and its line feed come in different chunks, and the last
line has no terminator. -/
def cutSource : Source :=
  [.chunk "<Q1> <P22> <Q2> .\r".toUTF8.data.toList, .interrupted,
    .chunk "\n<Q3> <P22> <Q4> .\n<Q5> <P2".toUTF8.data.toList, .chunk "5> <Q6> .".toUTF8.data.toList]

/-- A parser that deletes angle brackets wherever they are. -/
def bracketParser : StatementParser := ⟨["<", ">"]⟩

/-- The two records of one relation are the rows of its file. -/
theorem output_framed_cut_source :
    (peopleFiles .empty).tree.LeadsTo (.ofString "people")
        (fun r ↦ .file (.ofStrings ["people", r.name])) ∧
      ∃ content,
        (extract bracketParser 0 (peopleFiles .empty) cutSource.lines).sink.close.openRead
          ((Path.ofString "people").join "hasFather") = .ok (.file content) ∧
        content.data.toList.count lineFeed = 2 ∧ carriageReturn ∉ content.data.toList ∧
        content.data.toList.splitOn lineFeed =
          ["Q1\tQ2".toUTF8.data.toList, "Q3\tQ4".toUTF8.data.toList, []] := by
  obtain ⟨-, memory, -, hmemory, -, hfiles⟩ := output_framed cutSource bracketParser 0
    (peopleTree .empty) (.ofString "people") false (peopleFiles .empty) (createIn_peopleTree .empty)
    _ (leadsTo_peopleFiles .empty)
  obtain ⟨content, hread, hcount, -, hreturn, hsplit⟩ := hfiles .hasFather (by simp)
  obtain rfl := hmemory (by simp)
  refine ⟨leadsTo_peopleFiles .empty, content, hread, ?_, hreturn, ?_⟩
  · rw [hcount]
    decide +kernel
  · rw [hsplit]
    decide +kernel

end PersonRelations
