import PersonRelations.Proofs.Lines.ValidText

/-!
# The lines of bytes that are no text

A reader decodes line by line, so it never sees more of a stream than one line. Here its verdict is
compared with that on the stream as a whole: how far it is a text, and where the first sequence is
that is not UTF-8.

`Text.Utf8.IsLongestText` is the part before that sequence, the longest part at the beginning of a
stream that is UTF-8. The sequence cannot begin with a terminator, since a terminator is a character
of its own wherever it stands (`Text.Utf8.IsLongestText.not_terminator`); nor can a line ending make
good what was broken off before it. So the line that has the sequence in it is no text
(`Newlines.not_isValidUTF8_unterminated_append`), and the lines before it are.

The main statement is `decoding_by_lines`.
-/

namespace PersonRelations

/-! ### The longest text at the beginning of bytes -/

namespace Text.Utf8

/-- The text is the longest one at the beginning of the bytes. What follows it begins with the first
sequence that is not UTF-8. -/
structure IsLongestText (text bytes : List UInt8) : Prop where
  isPrefix : text <+: bytes
  isValidUTF8 : text.toByteArray.IsValidUTF8
  length_le : ∀ other, other <+: bytes → other.toByteArray.IsValidUTF8 →
    other.length ≤ text.length

theorem isValidUTF8_nil : ([] : List UInt8).toByteArray.IsValidUTF8 :=
  isValidUTF8_iff.2 ⟨[], rfl⟩

theorem exists_isLongestText (bytes : List UInt8) : ∃ text, IsLongestText text bytes := by
  induction bytes using List.reverseRecOn with
  | nil =>
    refine ⟨[], List.prefix_rfl, isValidUTF8_nil, fun other hother _ ↦ ?_⟩
    exact hother.length_le
  | append_singleton bytes b ih =>
    by_cases hvalid : (bytes ++ [b]).toByteArray.IsValidUTF8
    · exact ⟨bytes ++ [b], List.prefix_rfl, hvalid, fun other hother _ ↦ hother.length_le⟩
    · obtain ⟨text, hprefix, htext, hlongest⟩ := ih
      refine ⟨text, hprefix.trans (List.prefix_append _ _), htext, fun other hother hvalid' ↦ ?_⟩
      rcases List.prefix_concat_iff.1 hother with rfl | hshorter
      · exact absurd hvalid' hvalid
      · exact hlongest other hshorter hvalid'

namespace IsLongestText

variable {text bytes rest : List UInt8}

/-- No more bytes make a text with it. -/
theorem eq_nil_of_append (h : IsLongestText text (text ++ rest)) {more : List UInt8}
    (hmore : more <+: rest) (hvalid : (text ++ more).toByteArray.IsValidUTF8) : more = [] := by
  have hle := h.length_le (text ++ more) ((List.prefix_append_right_inj text).2 hmore) hvalid
  rw [List.length_append] at hle
  exact List.eq_nil_of_length_eq_zero (by omega)

/-- A terminator would be one more character. -/
theorem not_terminator {b : UInt8} (h : IsLongestText text (text ++ b :: rest)) :
    isTerminator b = false := by
  rw [← Bool.not_eq_true]
  intro hb
  have hone : [b].toByteArray.IsValidUTF8 := by
    have hcases : b = lineFeed ∨ b = carriageReturn := by simpa [isTerminator] using hb
    rcases hcases with rfl | rfl
    · exact isValidUTF8_iff.2 ⟨['\n'], by decide⟩
    · exact isValidUTF8_iff.2 ⟨['\r'], by decide⟩
  have hmore : (text ++ [b]).toByteArray.IsValidUTF8 := by
    rw [List.toByteArray_append]
    exact h.isValidUTF8.append hone
  exact absurd (h.eq_nil_of_append (List.prefix_append [b] rest) hmore) (List.cons_ne_nil _ _)

end IsLongestText

/-- What is no text is not decoded. -/
theorem exists_decode_eq_error {b : ByteArray} (h : ¬b.IsValidUTF8) : ∃ f, decode b = .error f :=
  ⟨_, dif_neg h⟩

end Text.Utf8

/-! ### The line that is under way -/

namespace Newlines

open Text.Utf8

/-- The characters behind the last line ending are the last ones of the text. The induction is on
the number of characters, since a pair of terminators is taken in one go; `ds` are those pending. -/
theorem exists_getLastD_piecesAfter_encode (ds cs : List Char) :
    ∃ es, es <:+ ds ++ cs ∧ (piecesAfter (encode ds) (encode cs)).getLastD [] = encode es := by
  induction h : cs.length using Nat.strongRecOn generalizing ds cs with
  | ind len ih =>
  subst h
  match cs with
  | [] =>
    have hnil : encode [] = [] := rfl
    rw [hnil, piecesAfter_nil, List.append_nil]
    exact ⟨ds, List.suffix_rfl, rfl⟩
  | c :: cs =>
    rw [encode_cons]
    rcases utf8EncodeChar_cases c with htext | ⟨t, ht, hc⟩
    · rw [piecesAfter_run htext, ← encode_singleton, ← encode_append, List.append_cons]
      exact ih cs.length (by simp) (ds ++ [c]) cs rfl
    · rw [hc, List.singleton_append]
      cases hcs : encode cs with
      | nil =>
        rw [piecesAfter_last ht]
        exact ⟨[], List.nil_suffix, rfl⟩
      | cons b bs =>
        obtain ⟨es, hes, hsuffix⟩ := exists_behind_eq_encode t hcs.symm
        have hlen := hsuffix.length_le
        rw [piecesAfter_terminator ht, getLastD_cons_pieces, hes]
        obtain ⟨fs, hfs, hlast⟩ := ih es.length (by simp only [List.length_cons]; omega) [] es rfl
        refine ⟨fs, ?_, ?_⟩
        · exact hfs.trans (hsuffix.trans ((List.suffix_cons c cs).trans (List.suffix_append ds _)))
        · rw [← hlast]
          exact congrArg (List.getLastD · []) (piecesAfter_empty (encode es)).symm

/-- What makes a text with the line under way makes one with all that came before. -/
theorem isValidUTF8_append_of_unterminated {text more : List UInt8}
    (htext : text.toByteArray.IsValidUTF8)
    (hmore : (unterminated text ++ more).toByteArray.IsValidUTF8) :
    (text ++ more).toByteArray.IsValidUTF8 := by
  obtain ⟨cs, rfl⟩ := isValidUTF8_iff.1 htext
  obtain ⟨ds, hds⟩ := isValidUTF8_iff.1 hmore
  obtain ⟨es, ⟨before, hcs⟩, hlast⟩ := exists_getLastD_piecesAfter_encode [] cs
  have hunterminated : unterminated (encode cs) = encode es := by
    rw [← hlast]
    exact congrArg (List.getLastD · []) (piecesAfter_empty (encode cs)).symm
  refine isValidUTF8_iff.2 ⟨before ++ ds, ?_⟩
  rw [encode_append, ← hds, hunterminated, ← List.append_assoc, ← encode_append, hcs,
    List.nil_append]

/-- A stream has one terminated line for each of its line endings. -/
theorem length_terminated (bytes : List UInt8) :
    (terminated bytes).length = (unify bytes).count lineFeed := by
  have hpieces : ∀ l : List UInt8, (l.splitOn lineFeed).length = l.count lineFeed + 1 := by
    intro l
    induction l with
    | nil => rfl
    | cons b bs ih =>
      rw [List.splitOn_cons_eq_if_modifyHead, List.count_cons]
      split
      · rw [List.length_cons, ih]
      · rw [List.length_modifyHead, ih, Nat.add_zero]
  rw [terminated, List.length_dropLast, pieces, hpieces, Nat.add_sub_cancel]

theorem isValidUTF8_of_mem_terminated {bytes : List UInt8} (h : bytes.toByteArray.IsValidUTF8)
    {l : List UInt8} (hl : l ∈ terminated bytes) : l.toByteArray.IsValidUTF8 :=
  isValidUTF8_of_mem_lines h (List.mem_append_left _ hl)

end Newlines

/-! ### The items up to the first sequence that is not UTF-8 -/

namespace ByteSplitter

open Text.Utf8

/-- Bytes are cut at their first terminator. -/
theorem exists_cut_at_terminator (bytes : List UInt8) :
    ∃ text rest, text ++ rest = bytes ∧ (∀ b ∈ text, isTerminator b = false) ∧
      ∀ t later, rest = t :: later → isTerminator t = true := by
  induction bytes with
  | nil => exact ⟨[], [], rfl, by simp, by simp⟩
  | cons b bs ih =>
    cases hb : isTerminator b with
    | true =>
      refine ⟨[], b :: bs, rfl, by simp, ?_⟩
      rintro _ _ ⟨⟩
      exact hb
    | false =>
      obtain ⟨text, rest, rfl, htext, hrest⟩ := ih
      refine ⟨b :: text, rest, rfl, ?_, hrest⟩
      rintro c (_ | ⟨_, hc⟩)
      · exact hb
      · exact htext c hc

/-- Bytes that make no text with those pending, however many of them are taken, make an error. The
line may end at a terminator or with the stream. -/
theorem items_of_not_text (n : Nat) (p : List UInt8) (afterReturn : Bool) {b : UInt8}
    {bs : List UInt8} (hb : isTerminator b = false)
    (hbad : ∀ more, more <+: b :: bs → more ≠ [] → ¬(p ++ more).toByteArray.IsValidUTF8) :
    ∃ f, items ⟨n, p, afterReturn⟩ ((b :: bs).map .byte) =
      [.error (.inputRead (n + 1) (.utf8 f))] := by
  have hfeed : (b :: bs).head? ≠ some lineFeed := by
    rintro ⟨⟩
    exact absurd hb (by decide)
  obtain ⟨text, rest, hcut, htext, hrest⟩ := exists_cut_at_terminator (b :: bs)
  have hne : text ≠ [] := by
    rintro rfl
    rw [hrest b bs hcut] at hb
    cases hb
  obtain ⟨f, hf⟩ := exists_decode_eq_error (hbad text ⟨rest, hcut⟩ hne)
  refine ⟨f, ?_⟩
  rw [items_of_head?_ne n p fun _ ↦ hfeed, ← hcut, List.map_append]
  cases rest with
  | nil =>
    rw [items_text n p text _ htext, List.map_nil, items_nil, step, if_neg (by simp [hne]), emit, hf]
    rfl
  | cons t later =>
    rw [List.map_cons, items_terminated n p text t _ htext (hrest t later rfl), emit, hf]
    rfl

end ByteSplitter

/-- **A stream that is no text** gives the lines that have their ending in its longest text, and
then an error. -/
theorem Source.lines_of_not_text {s : Source} {bytes text : List UInt8}
    (h : s.events = bytes.map .byte) (htext : Text.Utf8.IsLongestText text bytes)
    (hbytes : ¬bytes.toByteArray.IsValidUTF8) :
    ∃ (texts : List String) (f : Text.Utf8.Fault),
      texts.map (fun l ↦ l.toUTF8.data.toList) = Newlines.terminated text ∧
      s.lines = texts.map .ok ++ [.error (.inputRead (texts.length + 1) (.utf8 f))] := by
  obtain ⟨rest, rfl⟩ := htext.isPrefix
  match rest with
  | [] =>
    rw [List.append_nil] at hbytes
    exact absurd htext.isValidUTF8 hbytes
  | b :: bs =>
    rw [s.lines_eq_items, h, List.map_append, ByteSplitter.items_start]
    rcases ByteSplitter.giveLines_cases 0 (Newlines.terminated text) with
      ⟨texts, htexts, hgive⟩ | ⟨texts, l, later, f, hlines, hbad, -⟩
    · have hmore : ∀ more, more <+: b :: bs → more ≠ [] →
          ¬(Newlines.unterminated text ++ more).toByteArray.IsValidUTF8 := by
        intro more hprefix hne hvalid
        exact hne (htext.eq_nil_of_append hprefix
          (Newlines.isValidUTF8_append_of_unterminated htext.isValidUTF8 hvalid))
      obtain ⟨f, hf⟩ := ByteSplitter.items_of_not_text (0 + texts.length)
        (Newlines.unterminated text) (Newlines.endsInReturn text) htext.not_terminator hmore
      refine ⟨texts, f, htexts, ?_⟩
      rw [hgive, hf, Nat.zero_add]
    · -- the lines of a text are texts
      have hl : l ∈ Newlines.terminated text := by
        rw [← hlines]
        exact List.mem_append_right _ List.mem_cons_self
      have hvalid := Newlines.isValidUTF8_of_mem_terminated htext.isValidUTF8 hl
      rw [Text.Utf8.decode, dif_pos hvalid] at hbad
      cases hbad

/-- **Decoding by lines is decoding the whole.** A source delivers bytes, in any chunks. An error is
among its items exactly if the bytes are not UTF-8. If they are not, the items are the lines that
have their ending before the first sequence that is not UTF-8, and then an error; its line number is
one more than the number of line endings before that sequence. -/
theorem decoding_by_lines (s : Source) (bytes : List UInt8) (h : s.events = bytes.map .byte) :
    ((∃ e, .error e ∈ s.lines) ↔ ¬bytes.toByteArray.IsValidUTF8) ∧
    (¬bytes.toByteArray.IsValidUTF8 →
      ∃ text, Text.Utf8.IsLongestText text bytes ∧ ∃ (texts : List String) (f : Text.Utf8.Fault),
        texts.map (fun l ↦ l.toUTF8.data.toList) = Newlines.terminated text ∧
        s.lines = texts.map .ok ++
          [.error (.inputRead ((Newlines.unify text).count lineFeed + 1) (.utf8 f))]) := by
  have hinvalid : ¬bytes.toByteArray.IsValidUTF8 →
      ∃ text, Text.Utf8.IsLongestText text bytes ∧ ∃ (texts : List String) (f : Text.Utf8.Fault),
        texts.map (fun l ↦ l.toUTF8.data.toList) = Newlines.terminated text ∧
        s.lines = texts.map .ok ++
          [.error (.inputRead ((Newlines.unify text).count lineFeed + 1) (.utf8 f))] := by
    intro hbytes
    obtain ⟨text, htext⟩ := Text.Utf8.exists_isLongestText bytes
    obtain ⟨texts, f, htexts, hlines⟩ := Source.lines_of_not_text h htext hbytes
    have hcount : texts.length = (Newlines.unify text).count lineFeed := by
      rw [← Newlines.length_terminated, ← htexts, List.length_map]
    rw [hcount] at hlines
    exact ⟨text, htext, texts, f, htexts, hlines⟩
  refine ⟨⟨?_, fun hbytes ↦ ?_⟩, hinvalid⟩
  · rintro ⟨e, he⟩ hvalid
    obtain ⟨texts, -, hlines⟩ := Source.exists_texts_of_isValidUTF8 h hvalid
    rw [hlines] at he
    obtain ⟨line, -, hline⟩ := List.mem_map.1 he
    cases hline
  · obtain ⟨text, -, texts, f, -, hlines⟩ := hinvalid hbytes
    exact ⟨_, hlines ▸ List.mem_append_right _ List.mem_cons_self⟩

/-- An `é` with a pair behind it, a euro sign that a carriage return breaks off, and an `a`. The
chunks end inside the `é`, inside the pair and inside the euro sign. -/
def brokenOffSource : Source :=
  [.chunk [0xC3], .chunk [0xA9, 0x0D], .chunk [0x0A, 0xE2], .chunk [0x82, 0x0D, 0x61, 0x0A]]

/-- The error is that of the second line, since a pair is one line ending; the `a` behind it is not
given. -/
theorem decoding_by_lines_broken_off :
    ∃ text, Text.Utf8.IsLongestText text [0xC3, 0xA9, 0x0D, 0x0A, 0xE2, 0x82, 0x0D, 0x61, 0x0A] ∧
      Newlines.terminated text = ["é".toUTF8.data.toList] ∧
      brokenOffSource.lines = [.ok "é", .error (.inputRead 2 (.utf8 (.incomplete 0)))] := by
  have hbytes : brokenOffSource.events =
      [0xC3, 0xA9, 0x0D, 0x0A, 0xE2, 0x82, 0x0D, 0x61, 0x0A].map .byte := by decide
  have hinvalid :
      ¬[0xC3, 0xA9, 0x0D, 0x0A, 0xE2, 0x82, 0x0D, 0x61, 0x0A].toByteArray.IsValidUTF8 := by
    decide +kernel
  have hlines : brokenOffSource.lines =
      [.ok "é", .error (.inputRead 2 (.utf8 (.incomplete 0)))] := by
    rw [Source.lines_eq_items]
    decide +kernel
  obtain ⟨text, htext, texts, f, hterminated, hgiven⟩ :=
    (decoding_by_lines brokenOffSource _ hbytes).2 hinvalid
  refine ⟨text, htext, ?_, hlines⟩
  have htexts : ([.ok "é"] : List LineItem) = texts.map .ok :=
    List.append_inj_left' (hlines.symm.trans hgiven) rfl
  obtain ⟨line, rfl, hline⟩ := List.map_eq_singleton_iff.1 htexts.symm
  cases hline
  rw [← hterminated]
  rfl

end PersonRelations
