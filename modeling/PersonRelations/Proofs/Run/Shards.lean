import PersonRelations.Proofs.Lines.ValidText
import PersonRelations.Proofs.Run.BrokenInput

/-!
# Dumps in shards

A dump can be cut in two behind a line ending, and the halves be extracted from on their own. The
reader remembers more than the bytes to come: the line under way, and whether a line feed now would
belong to the line before. At a cut behind a line ending (`Newlines.IsLineCut`) no line is under
way, and a carriage return and its line feed are not cut apart, so that the reader goes on as if it
had just begun (`Newlines.piecesAfter_append`).

From there on everything is a function of the lines: records follow each other, counters add up
(`Stats.isSum_ofLines`), and files hold nothing but rows. `extract_in_shards` puts this together for
texts, for any chunks of the halves and of the whole.
-/

namespace PersonRelations

/-! ### Cuts behind line endings -/

namespace Newlines

/-- Bytes can be cut between `a` and `b`: `a` is empty or ends in a line ending, and no carriage
return is cut off from its line feed. -/
def IsLineCut (a b : List UInt8) : Prop :=
  a = [] ∨ a.getLast? = some lineFeed ∨
    a.getLast? = some carriageReturn ∧ b.head? ≠ some lineFeed

instance (a b : List UInt8) : Decidable (IsLineCut a b) :=
  inferInstanceAs (Decidable (_ ∨ _ ∨ _ ∧ _))

variable {a b : List UInt8}

/-- What a cut needs is seen at the last byte. -/
theorem IsLineCut.of_getLast?_eq {a' : List UInt8} (h : IsLineCut a b) (ha : a ≠ [])
    (hlast : a'.getLast? = a.getLast?) : IsLineCut a' b := by
  rcases h with hnil | hfeed | ⟨hreturn, hb⟩
  · exact absurd hnil ha
  · exact Or.inr (Or.inl (hlast.trans hfeed))
  · exact Or.inr (Or.inr ⟨hlast.trans hreturn, hb⟩)

/-- Before a cut stands a terminator, and what follows is not its other half. -/
theorem IsLineCut.of_singleton {t : UInt8} (h : IsLineCut [t] b) :
    isTerminator t = true ∧ ∀ c cs, b = c :: cs → behind t c cs = c :: cs := by
  rcases h with hnil | hfeed | ⟨hreturn, hb⟩
  · cases hnil
  · obtain rfl : t = lineFeed := Option.some.inj hfeed
    exact ⟨by decide, fun c cs _ ↦ if_neg (by simp [lineFeed, carriageReturn])⟩
  · obtain rfl : t = carriageReturn := Option.some.inj hreturn
    refine ⟨by decide, fun c cs hcs ↦ if_neg ?_⟩
    rintro hpair
    obtain ⟨-, hfeed⟩ := Bool.and_eq_true_iff.1 hpair
    rw [hcs, eq_of_beq hfeed] at hb
    exact hb rfl

theorem getLast?_behind {t c : UInt8} {cs : List UInt8} (h : behind t c cs ≠ []) :
    (behind t c cs).getLast? = (t :: c :: cs).getLast? := by
  rw [behind] at h ⊢
  split at h
  · rename_i hpair
    rw [if_pos hpair, List.getLast?_cons_cons]
    cases cs with
    | nil => exact absurd rfl h
    | cons d ds => rw [List.getLast?_cons_cons]
  · rename_i hpair
    rw [if_neg hpair, List.getLast?_cons_cons]

/-- **At a cut the pieces part.** The last piece before it is empty, and those behind it are as if
nothing had come before. The induction is on the number of bytes before the cut, since a pair of
terminators is taken in one go; pending bytes belong to a line that has its ending before the cut.
-/
theorem piecesAfter_append (p : List UInt8) (h : IsLineCut a b) (hp : a = [] → p = []) :
    piecesAfter p (a ++ b) = (piecesAfter p a).dropLast ++ pieces b ∧
      (piecesAfter p a).getLastD [] = [] := by
  induction hlen : a.length using Nat.strongRecOn generalizing a p with
  | ind len ih =>
  subst hlen
  match a with
  | [] =>
    rw [hp rfl, List.nil_append, piecesAfter_empty, piecesAfter_nil]
    exact ⟨rfl, rfl⟩
  | [t] =>
    obtain ⟨ht, hbehind⟩ := h.of_singleton
    rw [piecesAfter_last ht, List.singleton_append]
    refine ⟨?_, rfl⟩
    match b with
    | [] => exact piecesAfter_last ht p
    | c :: cs =>
      rw [piecesAfter_terminator ht, hbehind c cs rfl]
      rfl
  | t :: c :: cs =>
    have hlast : (c :: cs).getLast? = (t :: c :: cs).getLast? := List.getLast?_cons_cons.symm
    by_cases ht : isTerminator t = false
    · rw [List.cons_append, piecesAfter_text ht, piecesAfter_text ht]
      exact ih (c :: cs).length (by simp) _ (h.of_getLast?_eq (List.cons_ne_nil _ _) hlast)
        (fun hnil ↦ absurd hnil (List.cons_ne_nil _ _)) rfl
    rw [Bool.not_eq_false] at ht
    have hle := length_behind_le t c cs
    have hcut : IsLineCut (behind t c cs) b := by
      by_cases hnil : behind t c cs = []
      · exact Or.inl hnil
      · exact h.of_getLast?_eq (List.cons_ne_nil _ _) (getLast?_behind hnil)
    obtain ⟨hpieces, hend⟩ := ih (behind t c cs).length (by simp only [List.length_cons]; omega)
      [] hcut (fun _ ↦ rfl) rfl
    rw [piecesAfter_empty, piecesAfter_empty] at hpieces
    rw [piecesAfter_empty] at hend
    rw [piecesAfter_terminator ht, dropLast_cons_pieces, getLastD_cons_pieces, List.cons_append,
      List.cons_append, piecesAfter_terminator ht, behind_append, hpieces]
    exact ⟨rfl, hend⟩

/-- **The lines of the halves** are the lines of the whole. -/
theorem lines_append (h : IsLineCut a b) : lines (a ++ b) = lines a ++ lines b := by
  obtain ⟨hpieces, hend⟩ := piecesAfter_append [] h fun _ ↦ rfl
  rw [piecesAfter_empty, piecesAfter_empty] at hpieces
  rw [piecesAfter_empty] at hend
  have hterminated : terminated (a ++ b) = terminated a ++ terminated b := by
    rw [terminated, hpieces, List.dropLast_append_of_ne_nil (pieces_ne_nil b)]
    rfl
  have hunterminated : unterminated (a ++ b) = unterminated b := by
    rw [unterminated, hpieces, List.getLastD_eq_getLast?,
      List.getLast?_append_of_ne_nil _ (pieces_ne_nil b), ← List.getLastD_eq_getLast?]
    rfl
  have hlines : lines a = terminated a := by
    rw [lines, show unterminated a = [] from hend]
    exact List.append_nil _
  rw [hlines, lines, lines, hterminated, hunterminated, List.append_assoc]

end Newlines

/-- **Lines of shards.** Sources that deliver two texts give their lines, and a source that delivers
the texts one behind the other gives the lines of both. -/
theorem Source.exists_texts_of_isLineCut {first second whole : Source} {a b : List UInt8}
    (hfirst : first.events = a.map .byte) (hsecond : second.events = b.map .byte)
    (hwhole : whole.events = (a ++ b).map .byte) (ha : a.toByteArray.IsValidUTF8)
    (hb : b.toByteArray.IsValidUTF8) (hcut : Newlines.IsLineCut a b) :
    ∃ xs ys : List String, xs.map (fun l ↦ l.toUTF8.data.toList) = Newlines.lines a ∧
      ys.map (fun l ↦ l.toUTF8.data.toList) = Newlines.lines b ∧
      first.lines = xs.map .ok ∧ second.lines = ys.map .ok ∧ whole.lines = (xs ++ ys).map .ok := by
  obtain ⟨xs, hxs, hfirstLines⟩ := Source.exists_texts_of_isValidUTF8 hfirst ha
  obtain ⟨ys, hys, hsecondLines⟩ := Source.exists_texts_of_isValidUTF8 hsecond hb
  refine ⟨xs, ys, hxs, hys, hfirstLines, hsecondLines, ?_⟩
  have hab : (a ++ b).toByteArray.IsValidUTF8 := by
    rw [List.toByteArray_append]
    exact ha.append hb
  obtain ⟨zs, hzs, hwholeLines⟩ := Source.exists_texts_of_isValidUTF8 hwhole hab
  have heq : zs = xs ++ ys := by
    refine List.map_injective_iff.2 (fun _ _ ↦ Text.Utf8.toUTF8_toList_injective) ?_
    rw [hzs, Newlines.lines_append hcut, List.map_append, hxs, hys]
  rw [hwholeLines, heq]

/-! ### Counters of shards -/

/-- Every counter is the sum of two others, and a relation has a count if it has one in either. -/
structure Stats.IsSum (s first second : Stats) : Prop where
  linesRead : s.linesRead.toNat = first.linesRead.toNat + second.linesRead.toNat
  triplesParsed : s.triplesParsed.toNat = first.triplesParsed.toNat + second.triplesParsed.toNat
  malformedLines :
    s.malformedLines.toNat = first.malformedLines.toNat + second.malformedLines.toNat
  triplesWritten :
    s.triplesWritten.toNat = first.triplesWritten.toNat + second.triplesWritten.toNat
  written : ∀ r, (s.written r).toNat = (first.written r).toNat + (second.written r).toNat
  isSome_iff : ∀ r, (s.perRelation.get r).isSome ↔
    (first.perRelation.get r).isSome ∨ (second.perRelation.get r).isSome

theorem StatementParser.recordsOf_append (p : StatementParser) (r : Relation)
    (xs ys : List String) : p.recordsOf r (xs ++ ys) = p.recordsOf r xs ++ p.recordsOf r ys := by
  rw [recordsOf, records_append, List.filter_append]
  rfl

/-- **Counters add up.** -/
theorem Stats.isSum_ofLines (p : StatementParser) {xs ys : List String}
    (h : xs.length + ys.length < 2 ^ 64) :
    (ofLines p (xs ++ ys)).IsSum (ofLines p xs) (ofLines p ys) := by
  obtain ⟨hx₁, hx₂, hx₃, hx₄, hx₅⟩ :=
    toNat_counters (p := p) (show xs.length < 2 ^ 64 by omega)
  obtain ⟨hy₁, hy₂, hy₃, hy₄, hy₅⟩ :=
    toNat_counters (p := p) (show ys.length < 2 ^ 64 by omega)
  obtain ⟨h₁, h₂, h₃, h₄, h₅⟩ :=
    toNat_counters (p := p) (show (xs ++ ys).length < 2 ^ 64 by rwa [List.length_append])
  have hsome : ∀ (lines : List String) (r : Relation),
      ((ofLines p lines).perRelation.get r).isSome ↔ (p.recordsOf r lines).length ≠ 0 := by
    intro lines r
    rw [ofLines, Relation.Table.get_ofFn, countOf]
    split <;> simp_all
  refine ⟨?_, ?_, ?_, ?_, fun r ↦ ?_, fun r ↦ ?_⟩
  · rw [h₁, hx₁, hy₁, List.length_append]
  · rw [h₂, hx₂, hy₂, List.countP_append]
  · rw [h₃, hx₃, hy₃, List.countP_append]
  · rw [h₄, hx₄, hy₄, p.records_append, List.length_append]
  · rw [h₅, hx₅, hy₅, p.recordsOf_append, List.length_append]
  · rw [hsome, hsome, hsome, p.recordsOf_append, List.length_append]
    omega

/-! ### Files of shards -/

/-- Relation files that were just opened in the directory, each of them a file of its own. -/
structure RelationFiles.FreshIn (x : RelationFiles) (dir : Path) : Prop where
  exists_opened : ∃ t makeDir, createIn t dir makeDir = .opened x
  distinctFiles : x.tree.DistinctFiles dir

/-- **An extraction into fresh files**, once they are finished, has left in each the rows of the
lines that could be counted. -/
theorem RelationFiles.FreshIn.openRead_extract {x : RelationFiles} {dir : Path} (h : x.FreshIn dir)
    (p : StatementParser) (interval : Count) (items : List LineItem) (r : Relation) :
    (extract p interval x items).sink.finish.1.openRead (dir.join r.name) =
      .ok (.file (p.pairsText r (LineItem.countable 0 items))) := by
  obtain ⟨t, makeDir, hopened⟩ := h.exists_opened
  have hopen := opened_of_createIn hopened
  have hfiles :
      (Sink.writeAll x (p.records (LineItem.countable 0 items))).1.close.DistinctFiles dir :=
    (extends_close_writeAll hopen _).distinctFiles h.distinctFiles
  obtain ⟨-, -, hread⟩ := openRead_close_writeAll hopen hfiles
  rw [tree_finish, sink_extract, hread, p.textOf_records]

/-! ### Extraction in shards -/

/-- Lines without an error, few enough to be counted, are all extracted from. -/
theorem extract_lines_memory (p : StatementParser) (interval : Count) {texts : List String}
    (h : texts.length < 2 ^ 64) :
    LineItem.countable 0 (texts.map .ok) = texts ∧
      (extract p interval ({} : MemorySink) (texts.map .ok)).result =
        .ok (Stats.ofLines p texts) ∧
      (extract p interval ({} : MemorySink) (texts.map .ok)).sink.records.toList =
        p.records texts := by
  have hlt : 0 + (LineItem.readable (texts.map .ok)).length < 2 ^ 64 := by
    rwa [LineItem.readable_map, Nat.zero_add]
  obtain ⟨hcount, hend⟩ := LineItem.countable_and_ending_of_lt hlt
  rw [LineItem.readable_map] at hcount
  have hgood : LineItem.failure? (texts.map .ok) = none := by
    have happend := LineItem.failure?_append texts []
    rwa [List.append_nil] at happend
  refine ⟨hcount, ?_, ?_⟩
  · rw [result_extract (by rw [MemorySink.writeAll_eq]), hend, hgood, hcount]
  · rw [records_extract, hcount]

/-- **Extraction in shards.** Two texts are cut behind a line ending: the first is empty, or ends in
a line feed, or ends in a carriage return and the second does not begin with a line feed. Three
sources deliver the first, the second, and the first followed by the second, in any chunks.

* The lines of the whole are the lines of the first and then those of the second, without an error.
* The records of the whole, and so those of each relation, are those of the first and then those of
  the second, and extracted into fresh files, each relation's file is the first one's followed by
  the second one's.
* All three extractions end well, and every counter of the whole, that of each relation included, is
  the sum of the two. -/
theorem extract_in_shards (a b : List UInt8) (first second whole : Source)
    (hfirst : first.events = a.map .byte) (hsecond : second.events = b.map .byte)
    (hwhole : whole.events = (a ++ b).map .byte) (ha : a.toByteArray.IsValidUTF8)
    (hb : b.toByteArray.IsValidUTF8) (hcut : Newlines.IsLineCut a b)
    (hlen : (Newlines.lines a).length + (Newlines.lines b).length < 2 ^ 64 - 1)
    (p : StatementParser) (i j k : Count) :
    (∃ xs ys : List String, xs.map (fun l ↦ l.toUTF8.data.toList) = Newlines.lines a ∧
      ys.map (fun l ↦ l.toUTF8.data.toList) = Newlines.lines b ∧ first.lines = xs.map .ok ∧
      second.lines = ys.map .ok ∧ whole.lines = first.lines ++ second.lines) ∧
    (extract p k ({} : MemorySink) whole.lines).sink.records.toList =
      (extract p i ({} : MemorySink) first.lines).sink.records.toList ++
        (extract p j ({} : MemorySink) second.lines).sink.records.toList ∧
    (∀ r, (extract p k ({} : MemorySink) whole.lines).sink.lines r =
      (extract p i ({} : MemorySink) first.lines).sink.lines r ++
        (extract p j ({} : MemorySink) second.lines).sink.lines r) ∧
    (∃ total x y : Stats, (extract p k ({} : MemorySink) whole.lines).result = .ok total ∧
      (extract p i ({} : MemorySink) first.lines).result = .ok x ∧
      (extract p j ({} : MemorySink) second.lines).result = .ok y ∧ total.IsSum x y) ∧
    ∀ (dir dir₁ dir₂ : Path) (files files₁ files₂ : RelationFiles), files.FreshIn dir →
      files₁.FreshIn dir₁ → files₂.FreshIn dir₂ → ∀ r : Relation, ∃ x y : ByteArray,
        (extract p i files₁ first.lines).sink.finish.1.openRead (dir₁.join r.name) =
          .ok (.file x) ∧
        (extract p j files₂ second.lines).sink.finish.1.openRead (dir₂.join r.name) =
          .ok (.file y) ∧
        (extract p k files whole.lines).sink.finish.1.openRead (dir.join r.name) =
          .ok (.file (x ++ y)) := by
  obtain ⟨xs, ys, hxs, hys, hfirstLines, hsecondLines, hwholeLines⟩ :=
    Source.exists_texts_of_isLineCut hfirst hsecond hwhole ha hb hcut
  have hcount : xs.length + ys.length < 2 ^ 64 - 1 := by
    have hx := congrArg List.length hxs
    have hy := congrArg List.length hys
    rw [List.length_map] at hx hy
    rwa [hx, hy]
  have hall : (xs ++ ys).length < 2 ^ 64 := by
    rw [List.length_append]
    omega
  obtain ⟨hc₁, hr₁, hs₁⟩ := extract_lines_memory p i (show xs.length < 2 ^ 64 by omega)
  obtain ⟨hc₂, hr₂, hs₂⟩ := extract_lines_memory p j (show ys.length < 2 ^ 64 by omega)
  obtain ⟨hc, hr, hs⟩ := extract_lines_memory p k hall
  rw [hfirstLines, hsecondLines, hwholeLines]
  have hrecords : (extract p k ({} : MemorySink) ((xs ++ ys).map .ok)).sink.records.toList =
      (extract p i ({} : MemorySink) (xs.map .ok)).sink.records.toList ++
        (extract p j ({} : MemorySink) (ys.map .ok)).sink.records.toList := by
    rw [hs, hs₁, hs₂, p.records_append]
  refine ⟨⟨xs, ys, hxs, hys, rfl, rfl, List.map_append⟩, hrecords, fun r ↦ ?_,
    ⟨_, _, _, hr, hr₁, hr₂, Stats.isSum_ofLines p (by omega)⟩, ?_⟩
  · rw [MemorySink.lines, hrecords, List.filter_append, List.map_append]
    rfl
  · intro dir dir₁ dir₂ files files₁ files₂ hfiles hfiles₁ hfiles₂ r
    refine ⟨_, _, hfiles₁.openRead_extract p i _ r, hfiles₂.openRead_extract p j _ r, ?_⟩
    rw [hfiles.openRead_extract, hc, hc₁, hc₂, p.pairsText_append]

/-- A statement, and a line ending that is a carriage return only. -/
def firstShard : List UInt8 :=
  "<Q1> <P22> <Q2> .\r".toUTF8.data.toList

/-- A line that is no statement, and a statement without a line ending. -/
def secondShard : List UInt8 :=
  "no triple\n<Q3> <P22> <Q4> .".toUTF8.data.toList

/-- Both shards, in chunks of which one goes across the cut. -/
def shardedSource : Source :=
  [.chunk ((firstShard ++ secondShard).take 5), .interrupted,
    .chunk ((firstShard ++ secondShard).drop 5)]

theorem freshIn_peopleFiles (dump : ByteArray) :
    (peopleFiles dump).FreshIn (.ofString "people") := by
  refine ⟨⟨_, _, createIn_peopleTree dump⟩, ?_⟩
  refine RelationFiles.distinctFiles_of_handles
    (RelationFiles.opened_of_createIn (createIn_peopleTree dump)) peopleLocation_injective
    fun r ↦ ?_
  rw [peopleFiles, Relation.Table.get_ofFn]

/-- The whole has three lines and two records of one relation, one from each shard. -/
theorem extract_in_shards_behind_return :
    Newlines.IsLineCut firstShard secondShard ∧
      shardedSource.lines = Source.lines [.chunk firstShard] ++ Source.lines [.chunk secondShard] ∧
      (∃ total x y : Stats,
        (extract default 0 ({} : MemorySink) shardedSource.lines).result = .ok total ∧
        (extract default 2 ({} : MemorySink) (Source.lines [.chunk firstShard])).result = .ok x ∧
        (extract default 0 ({} : MemorySink) (Source.lines [.chunk secondShard])).result = .ok y ∧
        total.linesRead = 3 ∧ total.written .hasFather = 2 ∧ total.IsSum x y) ∧
      ∃ x y : ByteArray,
        (extract default 2 (peopleFiles .empty)
            (Source.lines [.chunk firstShard])).sink.finish.1.openRead
          ((Path.ofString "people").join "hasFather") = .ok (.file x) ∧
        (extract default 0 (peopleFiles .empty)
            (Source.lines [.chunk secondShard])).sink.finish.1.openRead
          ((Path.ofString "people").join "hasFather") = .ok (.file y) ∧
        (extract default 0 (peopleFiles .empty) shardedSource.lines).sink.finish.1.openRead
          ((Path.ofString "people").join "hasFather") = .ok (.file (x ++ y)) := by
  have hcut : Newlines.IsLineCut firstShard secondShard := by decide +kernel
  obtain ⟨⟨xs, ys, -, -, -, -, hlines⟩, -, -, ⟨total, x, y, htotal, hx, hy, hsum⟩, hfiles⟩ :=
    extract_in_shards firstShard secondShard [.chunk firstShard] [.chunk secondShard] shardedSource
      (by decide +kernel) (by decide +kernel) (by decide +kernel) (by decide +kernel)
      (by decide +kernel) hcut (by decide +kernel) default 2 0 0
  have hcounts : (extract default 0 ({} : MemorySink) shardedSource.lines).result.map
      (fun s ↦ (s.linesRead, s.written .hasFather)) = .ok (3, 2) := by
    decide +kernel
  rw [htotal] at hcounts
  obtain ⟨hread, hwritten⟩ := Prod.mk.inj (Except.ok.inj hcounts)
  have hfresh := freshIn_peopleFiles .empty
  exact ⟨hcut, hlines, ⟨total, x, y, htotal, hx, hy, hread, hwritten, hsum⟩,
    hfiles _ _ _ _ _ _ hfresh hfresh hfresh .hasFather⟩

end PersonRelations
