import PersonRelations.Proofs.Lines.UniversalNewlines
import PersonRelations.Proofs.Output.FileTexts
import PersonRelations.Run

/-!
# What a run leaves behind

A run that gets as far as reading its dump (`Run.Starts`) leaves in the relation files the records
of the lines that it could read and count, whatever ended the reading (`Run.files_of_starts`). A
run that went well has read and counted all lines of the decoded dump, so that its files and
counters are functions of these lines (`files_of_completed_run`).

`StatementParser.pairs` says which pairs of a relation are in the lines, without records, sinks and
tables.
-/

namespace PersonRelations

/-! ### Pairs -/

namespace StatementParser

variable (p : StatementParser)

/-- The subject and the object of a line, if it is a triple with the relation's code as its
predicate. -/
def pair? (r : Relation) (line : String) : Option (String × String) :=
  match p.parse line with
  | .triple t => if t.predicate = r.code then some (t.subject, t.object) else none
  | .malformed _ => none

/-- The pairs of a relation in the lines, in order. -/
def pairs (r : Relation) (lines : List String) : List (String × String) :=
  lines.filterMap (p.pair? r)

/-- The pairs of a relation as a file has them: one line each, a tab between the two. -/
def pairsText (r : Relation) (lines : List String) : ByteArray :=
  (String.join ((p.pairs r lines).map fun (subject, object) ↦
    subject ++ "\t" ++ object ++ "\n")).toUTF8

/-- The records of a relation are its pairs. -/
theorem recordsOf_eq (r : Relation) (lines : List String) :
    p.recordsOf r lines = (p.pairs r lines).map fun (subject, object) ↦ ⟨r, subject, object⟩ := by
  rw [recordsOf, records, pairs, List.filter_filterMap, List.map_filterMap]
  congr 1
  funext line
  rw [record?, pair?]
  cases p.parse line with
  | malformed parts => rfl
  | triple t =>
    by_cases h : t.predicate = r.code
    · have hr : t.relation? = some r := Relation.ofCode?_eq_some_iff.2 h.symm
      simp [hr, h]
    · have hother : ∀ q, t.relation? = some q → q ≠ r := by
        rintro q hq rfl
        exact h (Relation.ofCode?_eq_some_iff.1 hq).symm
      simpa [h] using hother

theorem textOf_records (r : Relation) (lines : List String) :
    Record.textOf r (p.records lines) = p.pairsText r lines := by
  show Record.text (p.recordsOf r lines) = _
  rw [recordsOf_eq, Record.text, pairsText, List.map_map]
  rfl

end StatementParser

/-! ### Decoded dumps -/

/-- A decoded file amounts to its bytes and then its fault. -/
theorem Gzip.Decoded.events_source (d : Gzip.Decoded) :
    d.source.events = d.payloads.flatten.map .byte ++
      (d.fault?.map fun f ↦ Source.Event.failure (.gzip f)).toList := by
  -- a member without payload is dropped, since an empty chunk would be an end mark
  have hpayloads : Source.events ((d.payloads.filter fun p ↦ !p.isEmpty).map .chunk) =
      d.payloads.flatten.map .byte := by
    induction d.payloads with
    | nil => rfl
    | cons p ps ih =>
      cases p with
      | nil => simpa using ih
      | cons b bs =>
        simp only [List.isEmpty_cons, Bool.not_false, List.filter_cons_of_pos, List.map_cons,
          List.flatten_cons, List.map_append]
        rw [Source.events_cons_chunk (by simp), ih]
        simp
  have hfault : Source.events ((d.fault?.map fun f ↦ Fill.failure (.gzip f)).toList) =
      (d.fault?.map fun f ↦ Source.Event.failure (.gzip f)).toList := by
    cases d.fault? <;> rfl
  rw [source, ← hpayloads, ← hfault, Source.events, Source.events, Source.events,
    List.flatMap_append]

/-- A source that fails has no end without an error. -/
theorem Source.failure?_lines_of_failure {s : Source} {bytes : List UInt8} {f : Fault}
    {later : List Source.Event} (h : s.events = bytes.map .byte ++ .failure f :: later) :
    LineItem.failure? s.lines ≠ none := by
  rw [Source.lines_of_failure h]
  rcases ByteSplitter.giveLines_cases 0 (Newlines.terminated bytes) with
    ⟨texts, -, hgive⟩ | ⟨texts, l, rest, g, -, -, hgive⟩
  · rw [hgive, LineItem.failure?_append]
    exact Option.some_ne_none _
  · rw [hgive, LineItem.failure?_append]
    exact Option.some_ne_none _

/-- A source that is read without an error is read to its end. -/
theorem Source.exists_texts_of_bytes {s : Source} {bytes : List UInt8}
    (h : s.events = bytes.map .byte) (hgood : LineItem.failure? s.lines = none) :
    ∃ texts : List String, texts.map (fun l ↦ l.toUTF8.data.toList) = Newlines.lines bytes ∧
      s.lines = texts.map .ok := by
  rw [Source.lines_of_bytes h] at hgood ⊢
  rcases ByteSplitter.giveLines_cases 0 (Newlines.lines bytes) with
    ⟨texts, htexts, hgive⟩ | ⟨texts, l, rest, g, -, -, hgive⟩
  · exact ⟨texts, htexts, by rw [hgive, List.append_nil]⟩
  · rw [hgive, LineItem.failure?_append] at hgood
    cases hgood

/-! ### Runs that start -/

namespace Run

variable {s : Settings} {t : FileTree} {input : Path} {elapsed : Count} {files : RelationFiles}
  {dump : Source}

/-- The run gets as far as reading: its relation files and its dump are open. -/
structure Starts (s : Settings) (t : FileTree) (input : Path) (files : RelationFiles)
    (dump : Source) : Prop where
  opened : RelationFiles.createIn t s.output.dir s.output.createDir = .opened files
  openDump_eq : files.tree.openDump input = .ok dump

/-- A run that went well did start. -/
theorem exists_starts_of_ok {stats : Stats} (h : (run s t input elapsed).result = .ok stats) :
    ∃ files dump, Starts s t input files dump := by
  have hperform : ∃ stats, (perform s t input).result = .ok stats := by
    rw [run, complete] at h
    split at h
    · rename_i e he
      rw [he] at h
      cases h
    · rename_i stats hstats
      exact ⟨stats, hstats⟩
  obtain ⟨stats, hstats⟩ := hperform
  rw [perform] at hstats
  split at hstats
  · cases hstats
  · rename_i files hfiles
    rw [result_after, readDump] at hstats
    split at hstats
    · cases hstats
    · rename_i dump hdump
      exact ⟨files, dump, hfiles, hdump⟩

/-- A run that starts does what its extraction does. -/
theorem Starts.run_eq (h : Starts s t input files dump) (elapsed : Count) :
    (run s t input elapsed).tree = (extractInto s files dump).tree ∧
      (run s t input elapsed).result = (extractInto s files dump).result.map
        fun stats ↦ { stats with elapsedMs := elapsed } := by
  have hperform : perform s t input = (extractInto s files dump).after
      [.filesOpened files.dir, .extracting input files.dir] := by
    simp only [perform, h.opened, readDump, h.openDump_eq]
    rfl
  rw [run, hperform]
  refine ⟨by simp, ?_⟩
  rw [complete, result_after]
  cases hr : (extractInto s files dump).result with
  | error e => simp [hr, Except.map]
  | ok stats => simp [Except.map]

/-- The records that a run hands to its files: those of the lines that can be counted. -/
def handed (s : Settings) (dump : Source) : List Record :=
  s.parser.records (LineItem.countable 0 dump.lines)

theorem sink_extract_handed :
    (extract s.parser s.progressInterval files dump.lines).sink =
      (Sink.writeAll files (handed s dump)).1 :=
  sink_extract

/-- Whether the files are finished or given up, all of them are flushed. -/
theorem tree_extractInto :
    (extractInto s files dump).tree = (Sink.writeAll files (handed s dump)).1.close := by
  rw [← sink_extract_handed]
  simp only [extractInto]
  generalize extract s.parser s.progressInterval files dump.lines = pass
  -- the sink stays closed: unfolding a flush of thirteen files would be of no use here
  have htree := pass.sink.tree_finish
  generalize pass.sink.close = left at htree ⊢
  generalize pass.sink.finish = finished at htree ⊢
  obtain ⟨t, failures, e⟩ := finished
  cases pass.result with
  | error e => rfl
  | ok stats =>
    cases e with
    | none => exact htree
    | some e => exact htree

/-- If no file refuses anything, what ends the reading ends the run. -/
theorem result_extractInto (hwrite : (Sink.writeAll files (handed s dump)).2 = none)
    (hfinish : (Sink.writeAll files (handed s dump)).1.finish.2.2 = none) :
    (extractInto s files dump).result =
      match LineItem.ending 0 dump.lines with
      | none => .ok (Stats.ofLines s.parser (LineItem.countable 0 dump.lines))
      | some e => .error e := by
  have hpass : (extractInto s files dump).result =
      (extract s.parser s.progressInterval files dump.lines).result := by
    rw [← sink_extract_handed] at hfinish
    simp only [extractInto]
    generalize extract s.parser s.progressInterval files dump.lines = pass at hfinish ⊢
    generalize pass.sink.finish = finished at hfinish ⊢
    obtain ⟨t, failures, e⟩ := finished
    obtain rfl : e = none := hfinish
    cases pass.result with
    | error e => rfl
    | ok stats => rfl
  exact hpass.trans (result_extract hwrite)

/-- **What a run leaves behind.** A run that starts, with relation files that are different files,
leaves in each file the text of the records that it handed over, whatever ended the reading; and
that alone ends the run. -/
theorem files_of_starts (h : Starts s t input files dump)
    (hfiles : (run s t input elapsed).tree.DistinctFiles s.output.dir) :
    (∀ r, (run s t input elapsed).tree.openRead (s.output.dir.join r.name) =
      .ok (.file (s.parser.pairsText r (LineItem.countable 0 dump.lines)))) ∧
    (run s t input elapsed).result =
      match LineItem.ending 0 dump.lines with
      | none => .ok { Stats.ofLines s.parser (LineItem.countable 0 dump.lines) with
          elapsedMs := elapsed }
      | some e => .error e := by
  obtain ⟨htree, hresult⟩ := h.run_eq elapsed
  rw [htree, tree_extractInto] at hfiles
  obtain ⟨hwrite, hfinish, hread⟩ :=
    RelationFiles.openRead_close_writeAll (RelationFiles.opened_of_createIn h.opened) hfiles
  refine ⟨fun r ↦ ?_, ?_⟩
  · rw [htree, tree_extractInto, hread, handed, StatementParser.textOf_records]
  · rw [hresult, result_extractInto hwrite hfinish]
    cases LineItem.ending 0 dump.lines <;> rfl

/-- If the files were different when they were opened, they are so in the end. -/
theorem Starts.distinctFiles (h : Starts s t input files dump) {loc : Relation → Location}
    (hinj : Function.Injective loc) (hloc : ∀ r, (files.files.get r).handle = .file (loc r) 0) :
    (run s t input elapsed).tree.DistinctFiles s.output.dir := by
  have hopened := RelationFiles.opened_of_createIn h.opened
  rw [(h.run_eq elapsed).1, tree_extractInto]
  exact (RelationFiles.extends_close_writeAll hopened _).distinctFiles
    (RelationFiles.distinctFiles_of_handles hopened hinj hloc)

end Run

/-! ### Runs that went well -/

/-- Fewer than 2^64 lines are counted as they are. -/
theorem Stats.toNat_ofLines {p : StatementParser} {lines : List String}
    (h : lines.length < 2 ^ 64) :
    (ofLines p lines).linesRead.toNat = lines.length ∧
      (ofLines p lines).triplesParsed.toNat = lines.countP p.isTriple ∧
      (ofLines p lines).malformedLines.toNat = lines.countP (fun l ↦ !p.isTriple l) ∧
      ∀ r, ((ofLines p lines).written r).toNat = (p.pairs r lines).length := by
  obtain ⟨hlines, htriples, hmalformed, -, hwritten⟩ := toNat_counters (p := p) h
  refine ⟨hlines, htriples, hmalformed, fun r ↦ ?_⟩
  rw [hwritten, p.recordsOf_eq, List.length_map]

/-- The gzip file at the path decodes, without a fault, to the bytes. -/
def FileTree.Delivers (t : FileTree) (path : Path) (bytes : List UInt8) : Prop :=
  ∃ entry content payloads, t.openRead path = .ok entry ∧ entry.read = .ok content ∧
    Gzip.decodeFile content.data.toList = ⟨payloads, none⟩ ∧ bytes = payloads.flatten

/-- A dump whose lines have no error was decoded without a fault. -/
theorem FileTree.exists_delivers {t : FileTree} {path : Path} {dump : Source}
    (h : t.openDump path = .ok dump) (hgood : LineItem.failure? dump.lines = none) :
    ∃ bytes, t.Delivers path bytes ∧ dump.events = bytes.map .byte := by
  unfold openDump at h
  split at h
  · rename_i entry hentry
    cases h
    unfold Entry.dumpSource at hgood ⊢
    split at hgood
    · rename_i content hcontent
      have hevents := (Gzip.decodeFile content.data.toList).events_source
      rcases hfile : Gzip.decodeFile content.data.toList with ⟨payloads, _ | f⟩
      · rw [hfile] at hevents
        refine ⟨payloads.flatten, ⟨entry, content, payloads, hentry, hcontent, hfile, rfl⟩, ?_⟩
        simpa using hevents
      · rw [hfile] at hevents hgood
        exact absurd hgood (Source.failure?_lines_of_failure hevents)
    · -- a directory or a link that could not be followed: the first request fails
      rename_i f hread
      have hevents : Source.events [.failure (.file f)] = [].map .byte ++ [.failure (.file f)] :=
        rfl
      exact absurd hgood (Source.failure?_lines_of_failure hevents)
  · cases h

/-- **A completed run.** If a run went well and its relation files are different files, then the
dump was decoded without a fault, its lines are all UTF-8, and in the end each relation's file
consists of the relation's pairs in these lines, in their order. The counters are the numbers of
lines, of triples, of other lines and of the pairs of each relation.

The dump is read once the relation files are open and thereby emptied, so it is looked for in the
tree that opening them left. -/
theorem files_of_completed_run (s : Settings) (t : FileTree) (input : Path) (elapsed : Count)
    (stats : Stats) (hok : (run s t input elapsed).result = .ok stats)
    (hfiles : (run s t input elapsed).tree.DistinctFiles s.output.dir) :
    ∃ (bytes : List UInt8) (lines : List String),
      (RelationFiles.createIn t s.output.dir s.output.createDir).tree.Delivers input bytes ∧
      lines.map (fun l ↦ l.toUTF8.data.toList) = Newlines.lines bytes ∧
      (∀ r, (run s t input elapsed).tree.openRead (s.output.dir.join r.name) =
        .ok (.file (s.parser.pairsText r lines))) ∧
      stats.linesRead.toNat = lines.length ∧
      stats.triplesParsed.toNat = lines.countP s.parser.isTriple ∧
      stats.malformedLines.toNat = lines.countP (fun l ↦ !s.parser.isTriple l) ∧
      ∀ r, (stats.written r).toNat = (s.parser.pairs r lines).length := by
  obtain ⟨files, dump, hstarts⟩ := Run.exists_starts_of_ok hok
  obtain ⟨hread, hresult⟩ := Run.files_of_starts hstarts hfiles
  -- an error among the lines, or one line too many, would have ended the run
  have hend : LineItem.ending 0 dump.lines = none := by
    cases he : LineItem.ending 0 dump.lines with
    | none => rfl
    | some e =>
      rw [hok, he] at hresult
      cases hresult
  obtain ⟨hlen, hgood⟩ := LineItem.lt_of_ending_eq_none (by decide) hend
  obtain ⟨bytes, hbytes, hevents⟩ := FileTree.exists_delivers hstarts.openDump_eq hgood
  obtain ⟨lines, htexts, hlines⟩ := Source.exists_texts_of_bytes hevents hgood
  have hreadable : LineItem.readable dump.lines = lines := by rw [hlines, LineItem.readable_map]
  have hall : LineItem.countable 0 dump.lines = lines :=
    (LineItem.countable_and_ending_of_lt hlen).1.trans hreadable
  rw [hreadable, Nat.zero_add] at hlen
  rw [hall] at hread
  rw [hok, hend, hall] at hresult
  obtain ⟨hcount, htriples, hmalformed, hwritten⟩ := Stats.toNat_ofLines hlen
  refine ⟨bytes, lines, ?_, htexts, hread, ?_⟩
  · rw [hstarts.opened]
    exact hbytes
  · rw [Except.ok.inj hresult]
    exact ⟨hcount, htriples, hmalformed, hwritten⟩

/-! ### A run on three lines -/

theorem starts_peopleTree (dump : ByteArray) :
    Run.Starts {} (peopleTree dump) (.ofString "dump.gz") (peopleFiles dump)
      (Entry.file dump).dumpSource := by
  constructor
  · exact createIn_peopleTree dump
  · have hread : (peopleFiles dump).tree.openRead (.ofString "dump.gz") = .ok (.file dump) := by cbv
    rw [FileTree.openDump, hread]

theorem distinctFiles_peopleTree (dump : ByteArray) (elapsed : Count) :
    (run {} (peopleTree dump) (.ofString "dump.gz") elapsed).tree.DistinctFiles
      (.ofString "people") := by
  refine (starts_peopleTree dump).distinctFiles peopleLocation_injective fun r ↦ ?_
  rw [peopleFiles, Relation.Table.get_ofFn]

/-- A gzip file with a triple, a line that is none, and a triple without a line ending. -/
def threeLineDump : ByteArray :=
  ([0x1F, 0x8B, 8, 0, 0, 0, 0, 0, 0, 0xFF, 1, 46, 0, 209, 255] ++
    "<Q1> <P22> <Q2> .\r\nno triple\n<Q1> <P19> <Q3> .".toUTF8.data.toList ++
    [191, 83, 71, 44, 46, 0, 0, 0]).toByteArray

/-- The run on the three lines goes well and counts them; of the earlier run nothing is left. -/
theorem files_of_completed_run_three_lines :
    ∃ (stats : Stats) (lines : List String),
      (run {} (peopleTree threeLineDump) (.ofString "dump.gz") 5).result = .ok stats ∧
      (run {} (peopleTree threeLineDump) (.ofString "dump.gz") 5).tree.DistinctFiles
        (.ofString "people") ∧
      stats.linesRead = 3 ∧ lines.length = 3 ∧
      (default : StatementParser).pairsText .hasFather lines = "Q1\tQ2\n".toUTF8 ∧
      ∀ r, (run {} (peopleTree threeLineDump) (.ofString "dump.gz") 5).tree.openRead
        ((Path.ofString "people").join r.name) =
          .ok (.file ((default : StatementParser).pairsText r lines)) := by
  have hfiles := distinctFiles_peopleTree threeLineDump 5
  have hend : LineItem.ending 0 (Entry.file threeLineDump).dumpSource.lines = none := by
    decide +kernel
  have hcount : (LineItem.countable 0 (Entry.file threeLineDump).dumpSource.lines).length = 3 := by
    decide +kernel
  have htext : (default : StatementParser).pairsText .hasFather
      (LineItem.countable 0 (Entry.file threeLineDump).dumpSource.lines) = "Q1\tQ2\n".toUTF8 := by
    decide +kernel
  obtain ⟨hthere, hok⟩ := Run.files_of_starts (starts_peopleTree threeLineDump) hfiles
  simp only [hend] at hok
  obtain ⟨bytes, lines, -, -, hread, hlines, -⟩ := files_of_completed_run {} _ _ 5 _ hok hfiles
  have hthree : (UInt64.ofNat (LineItem.countable 0
      (Entry.file threeLineDump).dumpSource.lines).length) = 3 := by
    rw [hcount]
    rfl
  refine ⟨_, lines, hok, hfiles, hthree, ?_, ?_, hread⟩
  · rw [← hlines]
    exact congrArg UInt64.toNat hthree
  · have hsame := (hread .hasFather).symm.trans (hthere .hasFather)
    exact (Entry.file.inj (Except.ok.inj hsame)).trans htext

end PersonRelations
