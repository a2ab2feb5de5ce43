import PersonRelations.Proofs.Run.Files

/-!
# Input that breaks off

A dump that breaks off is compared with the whole dump. Up to the last line ending before the break
both give the same lines (`Source.exists_common_lines`); behind it the one fails, and what it had
read of a line is dropped, while the other goes on. So the records of the one are the first records
of the other, relation by relation, and since files hold nothing but rows, the files that a run on
the broken dump leaves are beginnings of the files of a run on the whole one, cut at a line ending
(`broken_input_leaves_prefix`).
-/

namespace PersonRelations

/-! ### Lines -/

/-- What a source gives that breaks off behind the bytes `read`: the lines `texts`, and then the
error `c`. Either these are all lines that have an ending, and `c` is the failure `f` of the source;
or one of them is not UTF-8, and this was found first. -/
structure Source.BreaksOff (s : Source) (read : List UInt8) (f : Fault) (texts : List String)
    (c : Fault) : Prop where
  lines_eq : s.lines = texts.map .ok ++ [.error (.inputRead (texts.length + 1) c)]
  cause : texts.map (fun l ↦ l.toUTF8.data.toList) = Newlines.terminated read ∧ c = f ∨
    ∃ l rest g, texts.map (fun l ↦ l.toUTF8.data.toList) ++ l :: rest = Newlines.terminated read ∧
      Text.Utf8.decode l.toByteArray = .error g ∧ c = .utf8 g

/-- No line is given that has no ending. -/
theorem Source.BreaksOff.prefix_terminated {s : Source} {read : List UInt8} {f c : Fault}
    {texts : List String} (h : s.BreaksOff read f texts c) :
    texts.map (fun l ↦ l.toUTF8.data.toList) <+: Newlines.terminated read := by
  rcases h.cause with ⟨heq, -⟩ | ⟨l, rest, g, heq, -, -⟩
  · exact heq ▸ List.prefix_rfl
  · rw [← heq]
    exact List.prefix_append _ _

/-- **Two sources with a common beginning**, of which one breaks off: what this one gives before
its error, the other gives first. -/
theorem Source.exists_common_lines {whole cut : Source} {bytes read : List UInt8} {f : Fault}
    {later : List Source.Event} (hread : read <+: bytes) (hwhole : whole.events = bytes.map .byte)
    (hcut : cut.events = read.map .byte ++ .failure f :: later) :
    ∃ texts c items, cut.BreaksOff read f texts c ∧ whole.lines = texts.map .ok ++ items := by
  obtain ⟨es, rfl⟩ := hread
  have hcutLines := Source.lines_of_failure hcut
  rw [List.map_append] at hwhole
  have hwholeLines := whole.lines_eq_items
  rw [hwhole, ByteSplitter.items_start] at hwholeLines
  -- both sources give the lines that end before the break, and differ in what comes behind them
  rcases ByteSplitter.giveLines_cases 0 (Newlines.terminated read) with
    ⟨texts, hbytes, hgive⟩ | ⟨texts, l, rest, g, hbytes, hbad, hgive⟩
  · rw [hgive, Nat.zero_add] at hcutLines
    rw [hgive] at hwholeLines
    exact ⟨texts, f, _, ⟨hcutLines, Or.inl ⟨hbytes, rfl⟩⟩, hwholeLines⟩
  · rw [hgive, Nat.zero_add] at hcutLines
    rw [hgive] at hwholeLines
    exact ⟨texts, .utf8 g, _, ⟨hcutLines, Or.inr ⟨l, rest, g, hbytes, hbad, rfl⟩⟩, hwholeLines⟩

/-! ### Texts -/

namespace StatementParser

variable (p : StatementParser)

theorem pairsText_append (r : Relation) (xs ys : List String) :
    p.pairsText r (xs ++ ys) = p.pairsText r xs ++ p.pairsText r ys := by
  simp [pairsText, pairs]

/-- The text of pairs is empty or ends in a line feed. -/
theorem pairsText_ends (r : Relation) (lines : List String) :
    (p.pairsText r lines).data.toList = [] ∨
      (p.pairsText r lines).data.toList.getLast? = some lineFeed := by
  rw [pairsText]
  rcases List.eq_nil_or_concat (p.pairs r lines) with hnil | ⟨before, ⟨subject, object⟩, hlast⟩
  · rw [hnil]
    exact Or.inl rfl
  · refine Or.inr ?_
    have hfeed : "\n".toByteArray.data.toList = [lineFeed] := by decide +kernel
    rw [hlast]
    simp [hfeed]

end StatementParser

/-! ### Passes and runs -/

section

variable {whole cut : Source} {bytes read : List UInt8} {f c : Fault} {texts : List String}
  {items : List LineItem}

/-- Before a break there are fewer lines than can be counted. -/
theorem Source.BreaksOff.length_lt (h : cut.BreaksOff read f texts c) (hread : read <+: bytes)
    (hlen : (Newlines.lines bytes).length < 2 ^ 64 - 1) : texts.length < 2 ^ 64 := by
  have hle := (h.prefix_terminated.trans (Newlines.terminated_prefix_lines hread)).length_le
  rw [List.length_map] at hle
  omega

/-- All lines before the break are counted, and then the error ends the reading. -/
theorem Source.BreaksOff.countable_and_ending (h : cut.BreaksOff read f texts c)
    (hlt : texts.length < 2 ^ 64) :
    LineItem.countable 0 cut.lines = texts ∧
      LineItem.ending 0 cut.lines = some (.inputRead (texts.length + 1) c) := by
  have hlt' : 0 + texts.length < 2 ^ 64 := by omega
  obtain ⟨hcount, hend⟩ := LineItem.countable_and_ending_append
    [.error (.inputRead (texts.length + 1) c)] hlt'
  rw [← h.lines_eq] at hcount hend
  exact ⟨hcount.trans (List.append_nil texts), hend⟩

/-- The other source has these lines first. -/
theorem exists_countable_eq (hwhole : whole.lines = texts.map .ok ++ items)
    (hlt : texts.length < 2 ^ 64) :
    ∃ more, LineItem.countable 0 whole.lines = texts ++ more := by
  have hlt' : 0 + texts.length < 2 ^ 64 := by omega
  rw [hwhole, (LineItem.countable_and_ending_append items hlt').1]
  exact ⟨_, rfl⟩

end

/-- **Input that breaks off.** A source delivers the bytes `read` and then fails; another one
delivers `bytes`, of which these are the beginning, and ends.

* The lines that the first gives are lines of `read` that have an ending: what stands behind the
  last ending is dropped. They end in a reading error, which is the failure of the source unless one
  of these lines is not UTF-8.
* An extraction from the first returns that error, and the records that it hands over, those of
  these lines, are for each relation the first records that an extraction from the second hands
  over.
* A run on the first returns the error too, and each relation's file that it leaves is the beginning
  of the one that a run on the second leaves, and is empty or ends in a line feed. -/
theorem broken_input_leaves_prefix (whole cut : Source) (bytes read : List UInt8) (f : Fault)
    (later : List Source.Event) (hread : read <+: bytes)
    (hwhole : whole.events = bytes.map .byte)
    (hcut : cut.events = read.map .byte ++ .failure f :: later)
    (hlen : (Newlines.lines bytes).length < 2 ^ 64 - 1) :
    ∃ (texts : List String) (c : Fault), cut.BreaksOff read f texts c ∧
      (∀ (p : StatementParser) (interval : Count),
        (extract p interval ({} : MemorySink) cut.lines).result =
          .error (.inputRead (texts.length + 1) c) ∧
        (extract p interval ({} : MemorySink) cut.lines).sink.records.toList = p.records texts ∧
        ∀ r, ((extract p interval ({} : MemorySink) cut.lines).sink.records.toList.filter
            fun x ↦ x.relation = r) <+:
          ((extract p interval ({} : MemorySink) whole.lines).sink.records.toList.filter
            fun x ↦ x.relation = r)) ∧
      ∀ (s : Settings) (t t' : FileTree) (input input' : Path) (elapsed elapsed' : Count)
        (files files' : RelationFiles), Run.Starts s t input files cut →
        Run.Starts s t' input' files' whole →
        (run s t input elapsed).tree.DistinctFiles s.output.dir →
        (run s t' input' elapsed').tree.DistinctFiles s.output.dir →
        (run s t input elapsed).result = .error (.inputRead (texts.length + 1) c) ∧
        ∀ r : Relation, ∃ left full : ByteArray,
          (run s t input elapsed).tree.openRead (s.output.dir.join r.name) = .ok (.file left) ∧
          (run s t' input' elapsed').tree.openRead (s.output.dir.join r.name) = .ok (.file full) ∧
          left.data.toList <+: full.data.toList ∧
          (left.data.toList = [] ∨ left.data.toList.getLast? = some lineFeed) := by
  obtain ⟨texts, c, items, hbreak, hitems⟩ := Source.exists_common_lines hread hwhole hcut
  -- the lines before the break are few enough to be counted in both passes
  have hlt := hbreak.length_lt hread hlen
  obtain ⟨hcount, hend⟩ := hbreak.countable_and_ending hlt
  obtain ⟨more, hmore⟩ := exists_countable_eq hitems hlt
  refine ⟨texts, c, hbreak, ?_, ?_⟩
  · intro p interval
    rw [records_extract, records_extract, hcount, hmore, StatementParser.records_append]
    refine ⟨?_, rfl, fun r ↦ ?_⟩
    · rw [result_extract, hend]
      rw [MemorySink.writeAll_eq]
    · rw [List.filter_append]
      exact List.prefix_append _ _
  · intro s t t' input input' elapsed elapsed' files files' hstarts hstarts' hfiles hfiles'
    obtain ⟨hleft, hresult⟩ := Run.files_of_starts hstarts hfiles
    obtain ⟨hfull, -⟩ := Run.files_of_starts hstarts' hfiles'
    rw [hend] at hresult
    rw [hcount] at hleft
    rw [hmore] at hfull
    refine ⟨hresult, fun r ↦ ⟨_, _, hleft r, hfull r, ?_, StatementParser.pairsText_ends _ r texts⟩⟩
    rw [StatementParser.pairsText_append, ByteArray.data_append, Array.toList_append]
    exact List.prefix_append _ _

/-- The dump of three lines, cut off inside the third. -/
def brokenDump : ByteArray :=
  (threeLineDump.data.toList.take 60).toByteArray

/-- The run on the broken dump fails at its third line, and what it leaves is compared with what the
run on the whole dump leaves. -/
theorem broken_input_leaves_prefix_three_lines :
    ∃ c : Fault, (run {} (peopleTree brokenDump) (.ofString "dump.gz") 5).result =
        .error (.inputRead 3 c) ∧
      ∀ r : Relation, ∃ left full : ByteArray,
        (run {} (peopleTree brokenDump) (.ofString "dump.gz") 5).tree.openRead
          ((Path.ofString "people").join r.name) = .ok (.file left) ∧
        (run {} (peopleTree threeLineDump) (.ofString "dump.gz") 5).tree.openRead
          ((Path.ofString "people").join r.name) = .ok (.file full) ∧
        left.data.toList <+: full.data.toList ∧
        (left.data.toList = [] ∨ left.data.toList.getLast? = some lineFeed) := by
  obtain ⟨texts, c, hbreak, -, hruns⟩ := broken_input_leaves_prefix
    (Entry.file threeLineDump).dumpSource (Entry.file brokenDump).dumpSource
    "<Q1> <P22> <Q2> .\r\nno triple\n<Q1> <P19> <Q3> .".toUTF8.data.toList
    "<Q1> <P22> <Q2> .\r\nno triple\n<Q1> <P19> <Q3> ".toUTF8.data.toList
    (.gzip .incompleteData) [] (by decide +kernel) (by decide +kernel) (by decide +kernel)
    (by decide +kernel)
  have hthree : texts.length + 1 = 3 := by
    have hlines : (Entry.file brokenDump).dumpSource.lines.length = 3 := by decide +kernel
    rw [hbreak.lines_eq] at hlines
    simpa using hlines
  obtain ⟨hresult, hfiles⟩ := hruns {} _ _ _ _ 5 5 _ _ (starts_peopleTree brokenDump)
    (starts_peopleTree threeLineDump) (distinctFiles_peopleTree brokenDump 5)
    (distinctFiles_peopleTree threeLineDump 5)
  rw [hthree] at hresult
  exact ⟨c, hresult, hfiles⟩

end PersonRelations
