import PersonRelations.Proofs.Output.FileTexts

/-!
# The two sinks agree

The same records are handed to relation files and to a sink in memory. A file is behind what was
handed over by what its buffer still holds, and by nothing else: at any time the file and the buffer
together are the rows that the memory has for the relation, each with a line feed
(`sinks_agree`). A record is written in four pieces, any of which can cause a flush or go past the
buffer, so nothing can be said of where in a row the file ends.

`MemorySink.text` is the memory's side of this, and `RelationFiles.Serving` carries the files' side.
-/

namespace PersonRelations

namespace MemorySink

/-- The rows of one relation, each with a line feed. -/
def text (s : MemorySink) (r : Relation) : ByteArray :=
  (String.join ((s.lines r).map fun line ↦ line ++ "\n")).toUTF8

theorem text_eq_textOf (s : MemorySink) (r : Relation) :
    s.text r = Record.textOf r s.records.toList := by
  rw [text, lines, List.map_map]
  rfl

theorem text_writeAll (r : Relation) (rs : List Record) :
    (Sink.writeAll ({} : MemorySink) rs).1.text r = Record.textOf r rs := by
  rw [text_eq_textOf, writeAll_eq]
  simp

end MemorySink

namespace RelationFiles

variable {x : RelationFiles} {dir : Path}

/-- **No buffer** ever holds more than its capacity. -/
theorem size_buffer_writeEach_le (h : ∀ r, (x.files.get r).buffer.size ≤ BufferedFile.capacity)
    (rs : List Record) (r : Relation) :
    ((Sink.writeEach x rs).files.get r).buffer.size ≤ BufferedFile.capacity := by
  induction rs generalizing x with
  | nil => exact h r
  | cons y rs ih =>
    refine ih (x := (Sink.write x y).1) fun s ↦ ?_
    show ((x.files.set y.relation _).get s).buffer.size ≤ _
    by_cases hs : s = y.relation
    · subst hs
      rw [Relation.Table.get_set_self]
      exact BufferedFile.size_buffer_writeAll_le (h y.relation) x.tree (pieces y)
    · rw [Relation.Table.get_set_of_ne _ hs]
      exact h s

/-- Buffers are empty when the files were just opened. -/
theorem size_buffer_of_opened (h : ∀ r, OpenedIn dir x.tree x.files r) (r : Relation) :
    (x.files.get r).buffer.size ≤ BufferedFile.capacity := by
  rw [(h r).2]
  exact Nat.zero_le _

end RelationFiles

/-- **The two sinks agree.** Records are handed to relation files that were just opened, whose paths
lead to different files, and to an empty memory. Neither refuses any, and then, for each relation,
the content of its file and behind it its buffer are the rows in memory, each with a line feed, and
the buffer has no more than 8192 bytes. Finishing the files reports nothing and leaves what giving
them up leaves: a file that has all of these rows.

The records are any, so this holds after each of the records of a longer list. -/
theorem sinks_agree (t : FileTree) (dir : Path) (makeDir : Bool) (files : RelationFiles)
    (hopened : RelationFiles.createIn t dir makeDir = .opened files)
    (hfiles : files.tree.DistinctFiles dir) (rs : List Record) :
    ∃ (written : RelationFiles) (memory : MemorySink),
      Sink.writeAll files rs = (written, none) ∧
      Sink.writeAll ({} : MemorySink) rs = (memory, none) ∧
      (∀ r, ∃ content, written.tree.openRead (dir.join r.name) = .ok (.file content) ∧
        content ++ (written.files.get r).buffer = memory.text r ∧
        (written.files.get r).buffer.size ≤ 8192) ∧
      written.finish = (written.close, [], none) ∧
      ∀ r, written.close.openRead (dir.join r.name) = .ok (.file (memory.text r)) := by
  have hopen := RelationFiles.opened_of_createIn hopened
  have hrefl := FileTree.Extends.refl files.tree
  obtain ⟨loc, hto⟩ := hfiles.exists_leadsTo
  have hstart := RelationFiles.serving_of_opened hopen hrefl hto
  obtain ⟨hall, hserving⟩ := RelationFiles.serving_writeAll_of_files hstart rs
  have hmemory : Sink.writeAll ({} : MemorySink) rs =
      ((Sink.writeAll ({} : MemorySink) rs).1, none) := by
    rw [MemorySink.writeAll_eq]
  refine ⟨_, _, hall, hmemory, fun r ↦ ?_, ?_, fun r ↦ ?_⟩
  · have hext := (RelationFiles.backed_writeEach (.of_opened hopen) rs).extends_tree
    have hheld : BufferedFile.Holds _ _ (loc r) _ := hserving.serves r
    refine ⟨_, RelationFiles.openRead_of_opened hopen hrefl hto rfl hext, ?_, ?_⟩
    · rw [MemorySink.text_writeAll, hheld.append_eq]
    · exact RelationFiles.size_buffer_writeEach_le
        (RelationFiles.size_buffer_of_opened hopen) rs r
  · exact RelationFiles.finish_of_files hserving
  · rw [MemorySink.text_writeAll]
    exact RelationFiles.openRead_close_writeEach hopen hrefl hto rs (by simp)

/-- Records of which one goes past the buffer, between two that do not. -/
def recordsPastBuffer : List Record :=
  [⟨.hasChild, "Q1", "Q2"⟩, ⟨.hasChild, longSubject, "Q3"⟩, ⟨.hasFather, "Q4", "Q5"⟩]

/-- The records are written to files of which one is left from an earlier run. -/
theorem sinks_agree_past_buffer :
    (peopleFiles .empty).tree.DistinctFiles (.ofString "people") ∧
      ∃ written : RelationFiles,
        Sink.writeAll (peopleFiles .empty) recordsPastBuffer = (written, none) ∧
        written.finish.2.2 = none ∧
        written.close.openRead ((Path.ofString "people").join "hasFather") =
          .ok (.file "Q4\tQ5\n".toUTF8) := by
  have hfiles : (peopleFiles .empty).tree.DistinctFiles (.ofString "people") :=
    RelationFiles.distinctFiles_of_handles
      (RelationFiles.opened_of_createIn (createIn_peopleTree .empty)) peopleLocation_injective
      fun r ↦ by rw [peopleFiles, Relation.Table.get_ofFn]
  obtain ⟨written, memory, hwritten, hmemory, -, hfinish, hread⟩ := sinks_agree
    (peopleTree .empty) (.ofString "people") false (peopleFiles .empty) (createIn_peopleTree .empty)
    hfiles recordsPastBuffer
  have htext := MemorySink.text_writeAll .hasFather recordsPastBuffer
  rw [hmemory] at htext
  refine ⟨hfiles, written, hwritten, by rw [hfinish], (hread .hasFather).trans ?_⟩
  rw [htext]
  simp [recordsPastBuffer, Record.textOf, Record.text, Record.row]

end PersonRelations
