import PersonRelations.Extraction
import PersonRelations.Proofs.Lines.Calls
import PersonRelations.Proofs.Lines.ValidText
import PersonRelations.Proofs.Output.Framing

/-!
# Line endings

Lines are written with line endings of their own choice, and read back. There is one way for this to
go wrong: a carriage return and a line feed that end two lines stand next to each other, and are
then read as one line ending. The second of the two lines has to be empty for that, so it is a
matter of neighbours (`EndedLine.Merges`). It cannot be helped, since there is one line with the
same bytes (`EndedLine.bytes_append_of_merges`).

`ByteSplitter.items_ending` is what a line ending does to the splitter. It ends the line, whatever
the line ending is, and leaves it to remember a carriage return or nothing. What is remembered
matters only if a line feed comes next (`ByteSplitter.items_of_head?_ne`), which the neighbours
exclude. The rest is an induction on the lines (`ByteSplitter.items_writeLines`).

The same two facts show that a source without carriage returns can have its line feeds replaced by
any line ending (`ByteSplitter.items_replaceFeeds`); here the source may also end, fail and go on
behind it as it likes. `line_endings_round_trip` is the result.
-/

namespace PersonRelations

/-! ### Lines with their endings -/

/-- What can stand at the end of a line. -/
inductive LineEnding where
  | lf
  | cr
  | crlf
  deriving DecidableEq, Repr

/-- The bytes of a line ending. -/
def LineEnding.bytes : LineEnding → List UInt8
  | .lf => [lineFeed]
  | .cr => [carriageReturn]
  | .crlf => [carriageReturn, lineFeed]

/-- A text that has no terminator in it, and the line ending behind it. -/
structure EndedLine where
  text : String
  ending : LineEnding
  no_feed : '\n' ∉ text.toList
  no_return : '\r' ∉ text.toList
  deriving DecidableEq

namespace EndedLine

/-- The bytes of a line and its ending. -/
def bytes (l : EndedLine) : List UInt8 :=
  l.text.toUTF8.data.toList ++ l.ending.bytes

/-- A carriage return ends the first line, and the other one is a line feed only: the two together
are read as one line ending. -/
def Merges (l m : EndedLine) : Prop :=
  l.ending = .cr ∧ m.text = "" ∧ m.ending = .lf

instance (l m : EndedLine) : Decidable (l.Merges m) :=
  inferInstanceAs (Decidable (_ ∧ _ ∧ _))

/-- Two lines that merge have the bytes of one. -/
theorem bytes_append_of_merges {l m : EndedLine} (h : l.Merges m) :
    l.bytes ++ m.bytes = EndedLine.bytes { l with ending := .crlf } := by
  obtain ⟨hreturn, htext, hfeed⟩ := h
  rw [bytes, bytes, bytes, hreturn, htext, hfeed, List.append_assoc]
  rfl

end EndedLine

/-- The bytes of lines that have an ending, and of a last one that has none. -/
def writeLines (ls : List EndedLine) (last? : Option String) : List UInt8 :=
  ls.flatMap EndedLine.bytes ++ last?.toList.flatMap fun last ↦ last.toUTF8.data.toList

theorem writeLines_cons (l : EndedLine) (ls : List EndedLine) (last? : Option String) :
    writeLines (l :: ls) last? = l.bytes ++ writeLines ls last? := by
  rw [writeLines, List.flatMap_cons, List.append_assoc]
  rfl

/-! ### Terminators of a text -/

/-- A character of one byte is that byte. -/
theorem toNat_eq_of_utf8EncodeChar {c : Char} {b : UInt8} (h : String.utf8EncodeChar c = [b]) :
    c.toNat = b.toNat := by
  have hsize : c.utf8Size = 1 := by rw [← String.length_utf8EncodeChar, h, List.length_singleton]
  have hsmall : c.val ≤ 127 := Char.utf8Size_eq_one_iff.1 hsize
  rw [String.utf8EncodeChar_eq_singleton hsize] at h
  obtain rfl : c.val.toUInt8 = b := (List.cons.inj h).1
  rw [UInt32.toNat_toUInt8]
  exact (Nat.mod_eq_of_lt (Nat.lt_of_le_of_lt hsmall (by decide))).symm

/-- A text has no terminator among its bytes if it has none among its characters. -/
theorem Unbroken.of_notMem {s : String} (hfeed : '\n' ∉ s.toList) (hreturn : '\r' ∉ s.toList) :
    Unbroken s.toUTF8.data.toList := by
  intro b hb
  obtain ⟨c, hc, hbc⟩ := mem_toUTF8_iff.1 hb
  rcases Text.Utf8.utf8EncodeChar_cases c with hnone | ⟨t, ht, hone⟩
  · exact hnone b hbc
  · exfalso
    have hcases : t = lineFeed ∨ t = carriageReturn := by simpa [isTerminator] using ht
    have hnat := toNat_eq_of_utf8EncodeChar hone
    rcases hcases with rfl | rfl
    · exact hfeed ((Char.toNat_inj.1 hnat : c = '\n') ▸ hc)
    · exact hreturn ((Char.toNat_inj.1 hnat : c = '\r') ▸ hc)

theorem Unbroken.head?_ne {bytes : List UInt8} (h : Unbroken bytes) :
    bytes.head? ≠ some lineFeed :=
  fun hhead ↦ absurd (h lineFeed (List.mem_of_head? hhead)) (by decide)

theorem toUTF8_toList_ne_nil {s : String} (h : s ≠ "") : s.toUTF8.data.toList ≠ [] :=
  fun hnil ↦ h (Text.Utf8.toUTF8_toList_injective hnil)

/-- A line begins with a line feed only if it is nothing else. -/
theorem EndedLine.head?_bytes_ne {l : EndedLine} (h : ¬(l.text = "" ∧ l.ending = .lf))
    (rest : List UInt8) : (l.bytes ++ rest).head? ≠ some lineFeed := by
  rw [bytes, List.append_assoc]
  by_cases hempty : l.text = ""
  · rw [hempty]
    cases hending : l.ending with
    | lf => exact absurd ⟨hempty, hending⟩ h
    | cr => exact fun hhead ↦ absurd (Option.some.inj hhead) (by decide)
    | crlf => exact fun hhead ↦ absurd (Option.some.inj hhead) (by decide)
  · rw [List.head?_append_of_ne_nil _ (toUTF8_toList_ne_nil hempty)]
    exact (Unbroken.of_notMem l.no_feed l.no_return).head?_ne

namespace ByteSplitter

/-! ### One line ending -/

/-- Behind a line it makes no difference what is remembered, if the items that follow are the
same. -/
theorem resume_emit_congr {es fs : List Source.Event} {a b : Bool}
    (h : ∀ n, items ⟨n, [], a⟩ es = items ⟨n, [], b⟩ fs) (s : ByteSplitter) :
    resume (s.emit a) es = resume (s.emit b) fs := by
  rw [emit, emit]
  cases Text.Utf8.decode s.pending.toByteArray with
  | ok line => exact congrArg (.ok line :: ·) (h (s.linesRead + 1))
  | error f => rfl

/-- **A line ending** ends the line. Behind a lone carriage return there is one to remember. -/
theorem items_ending (n : Nat) (p : List UInt8) {afterReturn : Bool} (e : LineEnding)
    (h : afterReturn = true → e ≠ .lf) (es : List Source.Event) :
    items ⟨n, p, afterReturn⟩ (e.bytes.map .byte ++ es) =
      resume (emit ⟨n, p, false⟩ (e == .cr)) es := by
  cases e with
  | lf =>
    cases afterReturn with
    | false => exact items_cons _ _ es
    | true => exact absurd rfl (h rfl)
  | cr => cases afterReturn <;> exact items_cons _ _ es
  | crlf =>
    -- the line feed of the pair finds the carriage return remembered, and is swallowed
    have hfeed : ∀ m, items ⟨m, [], true⟩ (.byte lineFeed :: es) = items ⟨m, [], false⟩ es :=
      fun _ ↦ rfl
    cases afterReturn <;> exact (items_cons _ _ _).trans (resume_emit_congr hfeed ⟨n, p, false⟩)

/-! ### Lines that were written -/

/-- A text that is pending is given as it is. -/
theorem emit_text (n : Nat) (text : String) (a afterReturn : Bool) :
    emit ⟨n, text.toUTF8.data.toList, a⟩ afterReturn =
      (some (.ok text), some ⟨n + 1, [], afterReturn⟩) := by
  have hdecode : Text.Utf8.decode text.toUTF8.data.toList.toByteArray = .ok text :=
    Text.Utf8.decode_eq_ok_iff.2 (ByteArray.ext (by simp))
  rw [emit, hdecode]

/-- **One line that was written** is given. -/
theorem items_endedLine (n : Nat) (l : EndedLine) (es : List Source.Event) :
    items ⟨n, [], false⟩ (l.bytes.map .byte ++ es) =
      .ok l.text :: items ⟨n + 1, [], l.ending == .cr⟩ es := by
  rw [EndedLine.bytes, List.map_append, List.append_assoc,
    items_text n [] _ _ (Unbroken.of_notMem l.no_feed l.no_return),
    items_ending n _ l.ending (by simp), List.nil_append, emit_text]
  rfl

/-- A last line that was written without an ending is given, if there is one. -/
theorem items_last (n : Nat) (afterReturn : Bool) {last? : Option String}
    (h : ∀ last ∈ last?, last ≠ "" ∧ '\n' ∉ last.toList ∧ '\r' ∉ last.toList) :
    items ⟨n, [], afterReturn⟩ ((writeLines [] last?).map .byte) = last?.toList.map .ok := by
  cases last? with
  | none => rfl
  | some last =>
    obtain ⟨hne, hfeed, hreturn⟩ := h last rfl
    have hbytes : writeLines [] (some last) = last.toUTF8.data.toList := List.append_nil _
    have hunbroken := Unbroken.of_notMem hfeed hreturn
    have hpending : ¬last.toUTF8.data.toList.isEmpty = true :=
      fun hnil ↦ toUTF8_toList_ne_nil hne (List.isEmpty_iff.1 hnil)
    have htext := items_text n [] _ [] hunbroken
    rw [List.append_nil, List.nil_append] at htext
    rw [hbytes, items_of_head?_ne n [] fun _ ↦ hunbroken.head?_ne, htext, items, step,
      if_neg hpending, emit_text]
    rfl

/-- **All lines that were written** are given. The carriage return that the first of them may find
remembered is that of the line before, so it must not merge with it. -/
theorem items_writeLines {ls : List EndedLine} {last? : Option String}
    (hls : ls.IsChain fun l m ↦ ¬l.Merges m)
    (hlast : ∀ last ∈ last?, last ≠ "" ∧ '\n' ∉ last.toList ∧ '\r' ∉ last.toList)
    (n : Nat) (afterReturn : Bool)
    (hfirst : afterReturn = true → ∀ l ∈ ls.head?, ¬(l.text = "" ∧ l.ending = .lf)) :
    items ⟨n, [], afterReturn⟩ ((writeLines ls last?).map .byte) =
      (ls.map (·.text) ++ last?.toList).map .ok := by
  induction ls generalizing n afterReturn with
  | nil => exact items_last n afterReturn hlast
  | cons l ls ih =>
    obtain ⟨hnext, hls⟩ := List.isChain_cons.1 hls
    have hhead : afterReturn = true → (writeLines (l :: ls) last?).head? ≠ some lineFeed := by
      intro ha
      rw [writeLines_cons]
      exact EndedLine.head?_bytes_ne (hfirst ha l rfl) _
    rw [items_of_head?_ne n [] hhead, writeLines_cons, List.map_append, items_endedLine,
      ih hls (n + 1) (l.ending == .cr) fun hcr m hm hfeed ↦ ?_]
    · rfl
    · exact hnext m hm ⟨eq_of_beq hcr, hfeed⟩

/-! ### Line feeds that were replaced -/

/-- The events with every line feed replaced by a line ending. -/
def replaceFeeds (e : LineEnding) (es : List Source.Event) : List Source.Event :=
  es.flatMap fun event ↦ if event = .byte lineFeed then e.bytes.map .byte else [event]

theorem replaceFeeds_cons_feed (e : LineEnding) (es : List Source.Event) :
    replaceFeeds e (.byte lineFeed :: es) = e.bytes.map .byte ++ replaceFeeds e es := by
  rw [replaceFeeds, List.flatMap_cons, if_pos rfl]
  rfl

theorem replaceFeeds_cons_of_ne (e : LineEnding) {event : Source.Event}
    (h : event ≠ .byte lineFeed) (es : List Source.Event) :
    replaceFeeds e (event :: es) = event :: replaceFeeds e es := by
  rw [replaceFeeds, List.flatMap_cons, if_neg h]
  rfl

/-- **Replaced line feeds.** The items are the same. A carriage return is remembered only where lone
carriage returns were put in, and then there is no line feed left for it. -/
theorem items_replaceFeeds (e : LineEnding) {es : List Source.Event}
    (hes : .byte carriageReturn ∉ es) (n : Nat) (p : List UInt8) (afterReturn : Bool)
    (h : afterReturn = true → e = .cr) :
    items ⟨n, p, afterReturn⟩ (replaceFeeds e es) = items ⟨n, p, false⟩ es := by
  induction es generalizing n p afterReturn with
  | nil => rfl
  | cons event es ih =>
    rw [List.mem_cons, not_or] at hes
    obtain ⟨hevent, hes⟩ := hes
    have hrest : ∀ m q, items ⟨m, q, false⟩ (replaceFeeds e es) = items ⟨m, q, false⟩ es :=
      fun m q ↦ ih hes m q false (by simp)
    match event with
    | .byte b =>
      by_cases hb : b = lineFeed
      · subst hb
        have hending : afterReturn = true → e ≠ .lf := by
          rintro ha rfl
          cases h ha
        rw [replaceFeeds_cons_feed, items_ending n p e hending, items_cons]
        exact resume_emit_congr (fun m ↦ ih hes m [] _ eq_of_beq) ⟨n, p, false⟩
      · have hreturn : b ≠ carriageReturn := by
          rintro rfl
          exact hevent rfl
        rw [replaceFeeds_cons_of_ne e (by simpa using hb), items_cons, items_cons]
        simp [step, isTerminator, hb, hreturn, resume, hrest]
    | .endMark =>
      rw [replaceFeeds_cons_of_ne e (by simp), items_cons, items_cons, step, step]
      split
      · rfl
      · exact resume_emit_congr (fun m ↦ hrest m []) ⟨n, p, false⟩
    | .failure f => rw [replaceFeeds_cons_of_ne e (by simp), items_cons, items_cons]; rfl

end ByteSplitter

/-! ### Sources -/

/-- **Line endings are read back.**

* Texts that have no terminator are written, each with a line ending of its own; one more, which is
  not empty, may stand behind them without an ending. If no two neighbours merge, a source that
  delivers the bytes, in any chunks, gives the texts: one for each call of its reader, and then
  nothing.
* A source without carriage returns has its line feeds replaced by one of the line endings. It gives
  the same lines, and so an extraction has the same result, the same records and the same events. -/
theorem line_endings_round_trip :
    (∀ (ls : List EndedLine) (last? : Option String),
      ls.IsChain (fun l m ↦ ¬l.Merges m) →
      (∀ last ∈ last?, last ≠ "" ∧ '\n' ∉ last.toList ∧ '\r' ∉ last.toList) →
      ∀ s : Source, s.events = (writeLines ls last?).map .byte →
        s.lines = (ls.map (·.text) ++ last?.toList).map .ok ∧
        ∀ i, s.reader.answer i = ((ls.map (·.text) ++ last?.toList).map .ok)[i]?) ∧
    ∀ (s t : Source) (e : LineEnding), .byte carriageReturn ∉ s.events →
      t.events = ByteSplitter.replaceFeeds e s.events →
      t.lines = s.lines ∧
        ∀ (σ : Type) [Sink σ] (p : StatementParser) (interval : Count) (sink : σ),
          extract p interval sink t.lines = extract p interval sink s.lines := by
  refine ⟨fun ls last? hls hlast s hs ↦ ?_, fun s t e hs ht ↦ ?_⟩
  · have hlines : s.lines = (ls.map (·.text) ++ last?.toList).map .ok := by
      rw [s.lines_eq_items, hs]
      exact ByteSplitter.items_writeLines hls hlast 0 false (by simp)
    refine ⟨hlines, fun i ↦ ?_⟩
    rw [LineReader.answer_eq_getElem?, ← hlines]
    rfl
  · have hlines : t.lines = s.lines := by
      rw [t.lines_eq_items, s.lines_eq_items, ht]
      exact ByteSplitter.items_replaceFeeds e hs 0 [] false (by simp)
    exact ⟨hlines, fun σ _ p interval sink ↦ by rw [hlines]⟩

/-- Lines with all three line endings, three of them empty. -/
def mixedLines : List EndedLine :=
  [⟨"a", .cr, by decide, by decide⟩, ⟨"", .crlf, by decide, by decide⟩,
    ⟨"", .lf, by decide, by decide⟩, ⟨"", .cr, by decide, by decide⟩,
    ⟨"b", .lf, by decide, by decide⟩]

/-- The bytes of these lines and of an `é` behind them, of which a pair and the `é` are in two chunks
each. -/
def mixedSource : Source :=
  [.chunk [0x61, 0x0D, 0x0D], .chunk [0x0A, 0x0A, 0x0D], .chunk [0x62, 0x0A, 0xC3], .chunk [0xA9]]

/-- All six lines are read back. In a source with a line feed and a failure, a pair cut in two can
take the place of the line feed. -/
theorem line_endings_round_trip_mixed :
    mixedSource.lines = [.ok "a", .ok "", .ok "", .ok "", .ok "b", .ok "é"] ∧
      mixedSource.reader.answer 6 = none ∧
      Source.lines [.chunk [0x61, 0x0D], .chunk [0x0A], .failure (.other "device error")] =
        Source.lines [.chunk [0x61, 0x0A], .failure (.other "device error")] := by
  obtain ⟨hwritten, hreplaced⟩ := line_endings_round_trip
  have hchain : mixedLines.IsChain fun l m ↦ ¬l.Merges m := by decide
  have hlast : ∀ last ∈ some "é", last ≠ "" ∧ '\n' ∉ last.toList ∧ '\r' ∉ last.toList := by
    rintro _ ⟨⟩
    decide
  have hevents : mixedSource.events = (writeLines mixedLines (some "é")).map .byte := by
    decide +kernel
  obtain ⟨hlines, hanswers⟩ := hwritten mixedLines (some "é") hchain hlast mixedSource hevents
  refine ⟨hlines, hanswers 6, ?_⟩
  exact (hreplaced _ _ .crlf (by decide) (by decide)).1

end PersonRelations
