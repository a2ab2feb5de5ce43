import PersonRelations.Proofs.Extraction.Diagnostics
import PersonRelations.Proofs.Extraction.LineOrder
import PersonRelations.Proofs.Lines.Calls
import PersonRelations.Proofs.Output.Opening
import PersonRelations.Proofs.Run.Files

/-!
# The stages of a run

A run opens the relation files, then the dump, then extracts, then finishes the files, and at last
reports how it went. Each of the first four stages can fail, and what comes behind the first that
fails is not done.

* `Run.run_of_refused`: if the relation files cannot be opened, then the run is what that attempt
  came to, whatever the input is.
* `Run.run_of_unopened`: if the dump cannot be opened, then the relation files are given up, and
  nothing was written to them (`RelationFiles.close_of_empty`).
* `Run.extractInto_cases`: an extraction ends with an error of its own, or is followed by a flush of
  all files, which has an error, or not.

`run_in_stages` says which errors there can be at each stage and what is reported up to there. A run
that went well is the only one that reports its end; its whole report is a function of the lines.
-/

namespace PersonRelations

/-! ### Reports of a run, as they are shown -/

namespace ShownEvent

/-- The relation files in the directory are open. -/
def opened (dir : Path) : ShownEvent where
  level := .debug
  message := "Opened 13 relation files in " ++ dir.display
  fields := []

/-- The extraction begins. -/
def extracting (input dir : Path) : ShownEvent where
  level := .info
  message := "Extracting person relations from " ++ input.display ++ " into " ++ dir.display
  fields := []

/-- The run has ended well, with these counts. -/
def completed (lines parsed malformed written : Nat) (elapsed : Count) : ShownEvent where
  level := .info
  message := "Extraction completed"
  fields := [("lines", .number (.ofNat lines)), ("parsed", .number (.ofNat parsed)),
    ("malformed", .number (.ofNat malformed)), ("written", .number (.ofNat written)),
    ("elapsed_ms", .number elapsed)]

/-- The relation has got so many pairs. -/
def relationWritten (r : Relation) (count : Nat) : ShownEvent where
  level := .info
  message := "Relation written"
  fields := [("relation", .text r.name), ("count", .number (.ofNat count))]

end ShownEvent

/-- A text that does not begin like another is not that text, whatever comes behind. -/
theorem Text.append_ne_of_not_prefix {a b : String} (h : ¬a.toList <+: b.toList) (c : String) :
    a ++ c ≠ b := by
  rintro rfl
  rw [String.toList_append] at h
  exact h (List.prefix_append _ _)

/-- Nothing but the end of a run is reported in these words. -/
theorem Event.message_eq_iff (e : Event) :
    e.message = "Extraction completed" ↔ ∃ stats, e = .completed stats := by
  refine ⟨fun h ↦ ?_, ?_⟩
  · rcases e with dir | ⟨input, dir⟩ | _ | _ | stats | _ | ⟨r, f⟩ | path
    · change "Opened " ++ toString Relation.all.length ++ " relation files in " ++ dir.display =
        _ at h
      rw [String.append_assoc, String.append_assoc] at h
      exact absurd h (Text.append_ne_of_not_prefix (by decide) _)
    · change "Extracting person relations from " ++ input.display ++ " into " ++ dir.display =
        _ at h
      rw [String.append_assoc, String.append_assoc] at h
      exact absurd h (Text.append_ne_of_not_prefix (by decide) _)
    · exact absurd h (by decide : "Skipping malformed triple line" ≠ "Extraction completed")
    · exact absurd h (by decide : "Extraction progress" ≠ "Extraction completed")
    · exact ⟨stats, rfl⟩
    · exact absurd h (by decide : "Relation written" ≠ "Extraction completed")
    · change "Failed to flush " ++ r.name ++ ": " ++ f.message = _ at h
      rw [String.append_assoc, String.append_assoc] at h
      exact absurd h (Text.append_ne_of_not_prefix (by decide) _)
    · change "Summary written to " ++ path.display = _ at h
      exact absurd h (Text.append_ne_of_not_prefix (by decide) _)
  · rintro ⟨stats, rfl⟩
    rfl

/-- A pass does not report the end of the run. -/
theorem StatementParser.completed_notMem_reports (p : StatementParser) (interval : Count)
    (before lines : List String) (stats : Stats) :
    .completed stats ∉ p.reports interval before lines := by
  induction lines generalizing before with
  | nil => exact List.not_mem_nil
  | cons line lines ih =>
    have hprogress : ∀ s : Stats, Event.completed stats ∉ s.progressReport interval := by
      intro s
      rw [Stats.progressReport]
      split <;> simp
    have hline : Event.completed stats ∉ p.report interval before line := by
      rw [report, List.mem_append, not_or]
      refine ⟨?_, hprogress _⟩
      rcases p.parse line with t | parts <;> simp
    rw [reports, List.mem_append, not_or]
    exact ⟨hline, ih _⟩

/-! ### Where errors come from -/

theorem LineItem.mem_of_failure? {items : List LineItem} {e : Error} (h : failure? items = some e) :
    .error e ∈ items := by
  induction items with
  | nil => cases h
  | cons item items ih =>
    rcases item with e' | line
    · cases h
      exact List.mem_cons_self
    · exact List.mem_cons_of_mem _ (ih h)

/-- An error among the lines of a source is an error of reading. -/
theorem Source.eq_inputRead_of_mem {s : Source} {e : Error} (h : .error e ∈ s.lines) :
    ∃ n f, e = .inputRead n f := by
  obtain ⟨i, hi⟩ : ∃ i : Nat, s.reader.items[i]? = some (.error e) := List.getElem?_of_mem h
  rw [← LineReader.answer_eq_getElem?, LineReader.answer] at hi
  rcases (s.reader.after i).next_cases with ⟨line, hline, -⟩ | ⟨f, hfault, -⟩ | ⟨hnone, -⟩
  · rw [hline] at hi
    cases hi
  · rw [hfault] at hi
    cases hi
    exact ⟨_, f, rfl⟩
  · rw [hnone] at hi
    cases hi

namespace RelationFiles

variable {x : RelationFiles}

/-- A record that is refused is refused with an error of writing. -/
theorem eq_outputWrite_of_writeAll {rs : List Record} {e : Error}
    (h : (Sink.writeAll x rs).2 = some e) : ∃ r f, e = .outputWrite r f := by
  rcases Sink.writeAll_cases x rs with hall | ⟨before, r, after, e', -, -, he, hrefused⟩
  · rw [hall] at h
    cases h
  · rw [hrefused] at h
    cases h
    obtain ⟨f, -, hf⟩ := Option.map_eq_some_iff.1 he
    exact ⟨r.relation, .file f, hf.symm⟩

/-- Flushing files whose buffers are empty does nothing. -/
theorem flushAll_of_empty (h : ∀ r, (x.files.get r).buffer = .empty) (rs : List Relation) :
    x.flushAll rs = (x, []) := by
  have hflush : ∀ r, x.flush r = (x, none) := by
    intro r
    have hsame : x.files.set r (x.files.get r) = x.files := by
      refine Relation.Table.ext_get fun s ↦ ?_
      by_cases hs : s = r
      · subst hs
        exact Relation.Table.get_set_self x.files s _
      · exact Relation.Table.get_set_of_ne x.files hs _
    rcases hfile : x.files.get r with ⟨handle, buffer⟩
    obtain rfl : buffer = .empty := by
      have hempty := h r
      rwa [hfile] at hempty
    rw [hfile] at hsame
    rw [flush, hfile]
    show (({ x with files := x.files.set r ⟨handle, .empty⟩ } : RelationFiles), none) = _
    rw [hsame]
  induction rs with
  | nil => rfl
  | cons r rs ih =>
    rw [flushAll, hflush r]
    dsimp only
    rw [ih]
    rfl

/-- Giving up files to which nothing was written leaves the tree as it is. -/
theorem close_of_empty (h : ∀ r, (x.files.get r).buffer = .empty) : x.close = x.tree := by
  rw [close, flushAll_of_empty h]

/-- **Finishing** reports what could not be flushed, and returns the first of it. -/
theorem finish_cases (x : RelationFiles) :
    (x.finish.2.1 = [] ∧ x.finish.2.2 = none) ∨
      ∃ r e failures, x.finish.2.1 =
          ((r, e) :: failures).map (fun (r, e) ↦ .flushFailed r (.file e)) ∧
        x.finish.2.2 = some (.outputWrite r (.file e)) := by
  rw [finish]
  rcases x.flushAll Relation.all with ⟨y, _ | ⟨⟨r, e⟩, failures⟩⟩
  · exact Or.inl ⟨rfl, rfl⟩
  · exact Or.inr ⟨r, e, failures, rfl, rfl⟩

theorem dir_of_createIn {t : FileTree} {dir : Path} {makeDir : Bool}
    (h : createIn t dir makeDir = .opened x) : x.dir = dir := by
  have hcreate : ∀ {t : FileTree}, create t dir = .opened x → x.dir = dir := by
    intro t h
    rw [create] at h
    split at h
    · split at h
      · cases h
      · cases h
        rfl
    · cases h
  rcases createIn_cases t dir makeDir with ⟨-, -, e, hrefused⟩ | ⟨-, -, hrefused⟩ | ⟨-, hthere⟩
  · rw [hrefused] at h
    cases h
  · rw [hrefused] at h
    cases h
  · exact hcreate (hthere.symm.trans h)

end RelationFiles

/-! ### What is shown of the end of a run -/

namespace StatementParser

variable (p : StatementParser)

/-- The relations with a pair in the lines, in table order. -/
def present (lines : List String) : List Relation :=
  Relation.all.filter fun r ↦ p.pairs r lines ≠ []

theorem length_recordsOf (r : Relation) (lines : List String) :
    (p.recordsOf r lines).length = (p.pairs r lines).length := by
  rw [recordsOf_eq, List.length_map]

theorem filter_recordsOf (lines : List String) :
    (Relation.all.filter fun r ↦ p.recordsOf r lines ≠ []) = p.present lines := by
  refine List.filter_congr fun r _ ↦ ?_
  rw [recordsOf_eq]
  simp

/-- The pairs of the relations that have any are all records. -/
theorem sum_present (lines : List String) :
    ((p.present lines).map fun r ↦ (p.pairs r lines).length).sum = (p.records lines).length := by
  have hskip : ∀ rs : List Relation,
      ((rs.filter fun r ↦ p.pairs r lines ≠ []).map fun r ↦ (p.pairs r lines).length).sum =
        (rs.map fun r ↦ (p.recordsOf r lines).length).sum := by
    intro rs
    induction rs with
    | nil => rfl
    | cons r rs ih =>
      rw [List.map_cons, List.sum_cons, ← ih, length_recordsOf, List.filter_cons]
      by_cases hr : p.pairs r lines = []
      · simp [hr]
      · simp [hr]
  exact (hskip Relation.all).trans (Relation.sum_length_filter (p.records lines))

/-- What is shown of the end of a run. -/
theorem shown_closingEvents (lines : List String) (elapsed : Count) :
    (Run.closingEvents { Stats.ofLines p lines with elapsedMs := elapsed }).map Event.shown =
      .completed lines.length (lines.countP p.isTriple) (lines.countP fun l ↦ !p.isTriple l)
          (p.records lines).length elapsed ::
        (p.present lines).map fun r ↦ .relationWritten r (p.pairs r lines).length := by
  have hcounts : ({ Stats.ofLines p lines with elapsedMs := elapsed } : Stats).relationCounts =
      (p.present lines).map fun r ↦ (r, .ofNat (p.pairs r lines).length) := by
    rw [← filter_recordsOf]
    refine (Stats.relationCounts_ofLines p lines).trans (List.map_congr_left fun r _ ↦ ?_)
    rw [length_recordsOf]
  rw [Run.closingEvents, hcounts, List.map_cons, List.map_map, List.map_map]
  rfl

end StatementParser

/-! ### Stages -/

namespace Run

variable {s : Settings} {t : FileTree} {input : Path} {files : RelationFiles} {dump : Source}

/-- If the relation files cannot be opened, that is all. -/
theorem run_of_refused {e : Error} {t' : FileTree}
    (h : RelationFiles.createIn t s.output.dir s.output.createDir = .refused e t') (input : Path)
    (elapsed : Count) : run s t input elapsed = ⟨.error e, [], t'⟩ := by
  rw [run, perform, h]
  rfl

/-- If the dump cannot be opened, nothing was written to the relation files. -/
theorem run_of_unopened {e : Error}
    (h : RelationFiles.createIn t s.output.dir s.output.createDir = .opened files)
    (hdump : files.tree.openDump input = .error e) (elapsed : Count) :
    run s t input elapsed = ⟨.error e, [.filesOpened s.output.dir,
      .extracting input s.output.dir], files.tree⟩ := by
  have hclose : files.close = files.tree :=
    RelationFiles.close_of_empty fun r ↦ (RelationFiles.opened_of_createIn h r).2
  rw [run, perform, h]
  simp only [readDump, hdump, hclose, Opening.events, RelationFiles.dir_of_createIn h]
  rfl

/-- If both are open, the run is an extraction and what is reported around it. -/
theorem Starts.run_eq_complete (h : Starts s t input files dump) (elapsed : Count) :
    run s t input elapsed = ((extractInto s files dump).after [.filesOpened s.output.dir,
      .extracting input s.output.dir]).complete elapsed := by
  rw [run, perform, h.opened]
  simp only [readDump, h.openDump_eq, Opening.events, RelationFiles.dir_of_createIn h.opened]
  rfl

/-- **What extracting into files comes to.** The extraction fails; or the files cannot all be
flushed behind it; or all is well. -/
theorem extractInto_cases (s : Settings) (files : RelationFiles) (dump : Source) :
    (∃ e, (extract s.parser s.progressInterval files dump.lines).result = .error e ∧
      (extractInto s files dump).result = .error e ∧
      (extractInto s files dump).events =
        (extract s.parser s.progressInterval files dump.lines).events) ∨
    (∃ r e failures,
      (extractInto s files dump).result = .error (.outputWrite r (.file e)) ∧
      (extractInto s files dump).events =
        (extract s.parser s.progressInterval files dump.lines).events ++
          ((r, e) :: failures).map fun (r, e) ↦ .flushFailed r (.file e)) ∨
    ∃ stats, (extract s.parser s.progressInterval files dump.lines).result = .ok stats ∧
      (extractInto s files dump).result = .ok stats ∧
      (extractInto s files dump).events =
        (extract s.parser s.progressInterval files dump.lines).events := by
  simp only [extractInto]
  generalize extract s.parser s.progressInterval files dump.lines = pass
  rcases pass with ⟨e | stats, sink, events⟩
  · exact Or.inl ⟨e, rfl, rfl, rfl⟩
  · have hfinish := sink.finish_cases
    generalize sink.finish = finished at hfinish ⊢
    obtain ⟨left, reported, refusal⟩ := finished
    rcases hfinish with ⟨hreported, hnone⟩ | ⟨r, e, failures, hreported, hrefused⟩
    · obtain rfl : reported = [] := hreported
      obtain rfl : refusal = none := hnone
      exact Or.inr (Or.inr ⟨stats, rfl, rfl, List.append_nil events⟩)
    · obtain rfl : reported = _ := hreported
      obtain rfl : refusal = _ := hrefused
      exact Or.inr (Or.inl ⟨r, e, failures, rfl, rfl⟩)

/-- A pass over fewer than 2^64 lines fails when it reads or when it writes. -/
theorem error_of_extract {e : Error} (hlen : (LineItem.readable dump.lines).length < 2 ^ 64)
    (h : (extract s.parser s.progressInterval files dump.lines).result = .error e) :
    (∃ n f, e = .inputRead n f) ∨ ∃ r f, e = .outputWrite r f := by
  have hlt : 0 + (LineItem.readable dump.lines).length < 2 ^ 64 := by rwa [Nat.zero_add]
  obtain ⟨hcount, hend⟩ := LineItem.countable_and_ending_of_lt hlt
  rw [result_extract_eq, hcount, hend] at h
  rcases hwrite : (Sink.writeAll files (s.parser.records (LineItem.readable dump.lines))).2 with
    _ | e'
  · rw [hwrite, Option.none_or] at h
    rcases hread : LineItem.failure? dump.lines with _ | e'
    · rw [hread] at h
      cases h
    · rw [hread] at h
      cases h
      exact Or.inl (Source.eq_inputRead_of_mem (LineItem.mem_of_failure? hread))
  · rw [hwrite] at h
    cases h
    exact Or.inr (RelationFiles.eq_outputWrite_of_writeAll hwrite)

/-- The end of the run is not reported before it. -/
theorem completed_notMem_extractInto (hlen : (LineItem.readable dump.lines).length < 2 ^ 64)
    (stats : Stats) : .completed stats ∉ (extractInto s files dump).events := by
  have hpass : .completed stats ∉
      (extract s.parser s.progressInterval files dump.lines).events := by
    obtain ⟨lines, rest, hlines⟩ := exists_completedLines s.parser files dump.lines
    rw [hlines.events_eq hlen]
    exact s.parser.completed_notMem_reports _ _ _ _
  rcases extractInto_cases s files dump with ⟨e, -, -, hevents⟩ | ⟨r, e, failures, -, hevents⟩ |
    ⟨stats', -, -, hevents⟩
  · rwa [hevents]
  · rw [hevents, List.mem_append, not_or]
    exact ⟨hpass, by simp⟩
  · rwa [hevents]

/-- A run that starts ends as its extraction ends. -/
theorem Starts.result_cases (h : Starts s t input files dump)
    (hlen : (LineItem.readable dump.lines).length < 2 ^ 64) (elapsed : Count) :
    (∃ stats, (run s t input elapsed).result = .ok stats) ∨
      (∃ n c, (run s t input elapsed).result = .error (.inputRead n c)) ∨
      ∃ r c, (run s t input elapsed).result = .error (.outputWrite r c) := by
  rw [(h.run_eq elapsed).2]
  rcases extractInto_cases s files dump with ⟨e, hpass, hresult, -⟩ | ⟨r, e, -, hresult, -⟩ |
    ⟨stats, -, hresult, -⟩
  · rw [hresult]
    rcases error_of_extract hlen hpass with ⟨n, c, rfl⟩ | ⟨r, c, rfl⟩
    · exact Or.inr (Or.inl ⟨n, c, rfl⟩)
    · exact Or.inr (Or.inr ⟨r, c, rfl⟩)
  · rw [hresult]
    exact Or.inr (Or.inr ⟨r, _, rfl⟩)
  · rw [hresult]
    exact Or.inl ⟨_, rfl⟩

/-- **The end of a run** is reported if and only if the run ends well. -/
theorem Starts.completed_mem_iff (h : Starts s t input files dump)
    (hlen : (LineItem.readable dump.lines).length < 2 ^ 64) (elapsed : Count) :
    (∃ e ∈ (run s t input elapsed).events, e.message = "Extraction completed") ↔
      ∃ stats, (run s t input elapsed).result = .ok stats := by
  rcases hinto : (extractInto s files dump).result with e | stats
  · -- nothing is added to what the extraction and the flushes reported
    have hresult : (run s t input elapsed).result = .error e := by
      rw [(h.run_eq elapsed).2, hinto]
      rfl
    have hevents : (run s t input elapsed).events =
        [.filesOpened s.output.dir, .extracting input s.output.dir] ++
          (extractInto s files dump).events := by
      rw [h.run_eq_complete, complete, result_after, hinto]
      rfl
    rw [hresult, hevents]
    constructor
    · rintro ⟨ev, hmem, hmessage⟩
      obtain ⟨stats, rfl⟩ := ev.message_eq_iff.1 hmessage
      simp [completed_notMem_extractInto hlen stats] at hmem
    · rintro ⟨stats, hok⟩
      cases hok
  · have hresult := (h.run_eq elapsed).2
    rw [hinto] at hresult
    refine ⟨fun _ ↦ ⟨_, hresult⟩, fun _ ↦ ⟨.completed { stats with elapsedMs := elapsed }, ?_, rfl⟩⟩
    rw [h.run_eq_complete, complete, result_after, hinto]
    exact List.mem_append_right _ List.mem_cons_self

/-- **The whole report of a run** that ends well. -/
theorem Starts.shown_events (h : Starts s t input files dump) {elapsed : Count} {stats : Stats}
    (hok : (run s t input elapsed).result = .ok stats) :
    ∃ lines, dump.lines = lines.map .ok ∧
      (run s t input elapsed).events.map Event.shown =
        .opened s.output.dir :: .extracting input s.output.dir ::
          (s.parser.diagnostics s.progressInterval lines ++
            .completed lines.length (lines.countP s.parser.isTriple)
                (lines.countP fun l ↦ !s.parser.isTriple l) (s.parser.records lines).length
                elapsed ::
              (s.parser.present lines).map fun r ↦
                .relationWritten r (s.parser.pairs r lines).length) := by
  rw [(h.run_eq elapsed).2] at hok
  rcases extractInto_cases s files dump with ⟨e, -, hresult, -⟩ | ⟨r, e, -, hresult, -⟩ |
    ⟨passed, hpass, hresult, hevents⟩
  · rw [hresult] at hok
    cases hok
  · rw [hresult] at hok
    cases hok
  obtain ⟨hlen, hlines, rfl, -⟩ := of_extract_eq_ok hpass
  generalize hread : LineItem.readable dump.lines = lines at *
  have hdiagnostics : (extractInto s files dump).events.map Event.shown =
      s.parser.diagnostics s.progressInterval lines := by
    have hcompleted := completedLines_of_ok hpass
    rw [hread] at hcompleted
    rw [hevents, hcompleted.events_eq (by rwa [hread])]
    exact StatementParser.shown_reports (by rwa [List.length_nil, Nat.zero_add])
  refine ⟨lines, hlines, ?_⟩
  rw [h.run_eq_complete, complete, result_after, hresult]
  show List.map Event.shown (([.filesOpened s.output.dir, .extracting input s.output.dir] ++
    (extractInto s files dump).events) ++ closingEvents _) = _
  rw [List.map_append, List.map_append, hdiagnostics, s.parser.shown_closingEvents]
  rfl

end Run

/-- **A run fails at its first failing stage**, and reports what it did up to there.

* If the relation files cannot be opened, the run has the error and the tree of that attempt and
  reports nothing, whatever the input path is: the dump is not looked at.
* If the dump cannot be opened, this is the error. The tree is the one that opening the relation
  files left, in which each of them is empty or is a device, and it is reported that they were
  opened and that the extraction begins.
* If the dump is open, and has fewer than 2^64 - 1 lines, then the run ends well, or with an error
  of reading or of writing. It reports its end if and only if it ends well. Then its whole report is
  known: behind the diagnostics of the lines come the counts, and then each relation with a pair, in
  the order of the table, with the number of its pairs. These numbers add up to the number of pairs
  written. -/
theorem run_in_stages (s : Settings) (t : FileTree) :
    (∀ e t', RelationFiles.createIn t s.output.dir s.output.createDir = .refused e t' →
      ∀ input elapsed, run s t input elapsed = ⟨.error e, [], t'⟩) ∧
    (∀ files, RelationFiles.createIn t s.output.dir s.output.createDir = .opened files →
      ∀ input e, files.tree.openDump input = .error e → ∀ elapsed,
        (∃ c, e = .inputOpen input c) ∧ (run s t input elapsed).result = .error e ∧
        (run s t input elapsed).tree = files.tree ∧
        (∀ r : Relation, files.tree.EmptyAt (s.output.dir.join r.name)) ∧
        (run s t input elapsed).events.map Event.shown =
          [.opened s.output.dir, .extracting input s.output.dir]) ∧
    ∀ input files dump, Run.Starts s t input files dump →
      (LineItem.readable dump.lines).length < 2 ^ 64 - 1 → ∀ elapsed,
        ((∃ stats, (run s t input elapsed).result = .ok stats) ∨
          (∃ n c, (run s t input elapsed).result = .error (.inputRead n c)) ∨
          ∃ r c, (run s t input elapsed).result = .error (.outputWrite r c)) ∧
        ((∃ e ∈ (run s t input elapsed).events, e.message = "Extraction completed") ↔
          ∃ stats, (run s t input elapsed).result = .ok stats) ∧
        ∀ stats, (run s t input elapsed).result = .ok stats → ∃ lines written,
          dump.lines = lines.map .ok ∧ written ≤ lines.length ∧
          ((s.parser.present lines).map fun r ↦ (s.parser.pairs r lines).length).sum = written ∧
          (run s t input elapsed).events.map Event.shown =
            .opened s.output.dir :: .extracting input s.output.dir ::
              (s.parser.diagnostics s.progressInterval lines ++
                .completed lines.length (lines.countP s.parser.isTriple)
                    (lines.countP fun l ↦ !s.parser.isTriple l) written elapsed ::
                  (s.parser.present lines).map fun r ↦
                    .relationWritten r (s.parser.pairs r lines).length) := by
  refine ⟨fun e t' h ↦ Run.run_of_refused h, ?_, ?_⟩
  · intro files hopened input e hdump elapsed
    have hcause : ∃ c, e = .inputOpen input c := by
      rw [FileTree.openDump] at hdump
      split at hdump
      · cases hdump
      · cases hdump
        exact ⟨_, rfl⟩
    rw [Run.run_of_unopened hopened hdump]
    exact ⟨hcause, rfl, rfl, fun r ↦ (RelationFiles.opened_of_createIn hopened r).1.emptyAt, rfl⟩
  · intro input files dump hstarts hlen elapsed
    have hlt : (LineItem.readable dump.lines).length < 2 ^ 64 := by omega
    refine ⟨hstarts.result_cases hlt elapsed, hstarts.completed_mem_iff hlt elapsed, ?_⟩
    intro stats hok
    obtain ⟨lines, hlines, hshown⟩ := hstarts.shown_events hok
    exact ⟨lines, _, hlines, s.parser.length_records_le lines, s.parser.sum_present lines, hshown⟩

/-- Without a directory nothing is done for any input, and without a dump nothing is written. With
three lines, one of which is no triple, two relations get a pair each. -/
theorem run_in_stages_three_lines :
    (∀ input elapsed, run {} {} input elapsed =
      ⟨.error (.outputDirMissing (.ofString "people")), [], {}⟩) ∧
    (run {} (peopleTree threeLineDump) (.ofString "absent.gz") 5).result =
      .error (.inputOpen (.ofString "absent.gz") (.file .notFound)) ∧
    (run {} (peopleTree threeLineDump) (.ofString "absent.gz") 5).events.map Event.shown =
      [.opened (.ofString "people"), .extracting (.ofString "absent.gz") (.ofString "people")] ∧
    (run {} (peopleTree threeLineDump) (.ofString "dump.gz") 5).events.map Event.shown =
      [.opened (.ofString "people"), .extracting (.ofString "dump.gz") (.ofString "people"),
        .malformed 2 ["no", "triple"], .completed 3 2 1 2 5, .relationWritten .hasBirthPlace 1,
        .relationWritten .hasFather 1] := by
  have hnowhere : RelationFiles.createIn {} (.ofString "people") false =
      .refused (.outputDirMissing (.ofString "people")) {} := by cbv
  have habsent : (peopleFiles threeLineDump).tree.openDump (.ofString "absent.gz") =
      .error (.inputOpen (.ofString "absent.gz") (.file .notFound)) := by cbv
  have hthree : (LineItem.readable (Entry.file threeLineDump).dumpSource.lines).length <
      2 ^ 64 - 1 := by decide +kernel
  have hend : LineItem.ending 0 (Entry.file threeLineDump).dumpSource.lines = none := by
    decide +kernel
  have hstarts := starts_peopleTree threeLineDump
  obtain ⟨-, hok⟩ := Run.files_of_starts hstarts (distinctFiles_peopleTree threeLineDump 5)
  simp only [hend] at hok
  obtain ⟨hrefused, -, -⟩ := run_in_stages {} {}
  obtain ⟨-, hunopened, hstarted⟩ := run_in_stages {} (peopleTree threeLineDump)
  obtain ⟨-, hresult, -, -, hevents⟩ :=
    hunopened _ (createIn_peopleTree threeLineDump) _ _ habsent 5
  obtain ⟨-, -, hreport⟩ := hstarted _ _ _ hstarts hthree 5
  obtain ⟨lines, written, hlines, -, rfl, hshown⟩ := hreport _ hok
  obtain rfl : lines = LineItem.readable (Entry.file threeLineDump).dumpSource.lines := by
    rw [hlines, LineItem.readable_map]
  refine ⟨hrefused _ _ hnowhere, hresult, hevents, hshown.trans ?_⟩
  -- how a path is displayed does not matter, since the paths on both sides are the same
  refine congrArg (fun shown ↦ ShownEvent.opened (.ofString "people") ::
    ShownEvent.extracting (.ofString "dump.gz") (.ofString "people") :: shown) ?_
  decide +kernel

end PersonRelations
