import PersonRelations.Proofs.Lines.UniversalNewlines

/-!
# The lines of a text

Bytes are cut into lines before they are decoded. If the bytes as a whole are UTF-8, this does no
harm: a byte below 0x80 is a character of its own (`Text.Utf8.eq_of_mem_utf8EncodeChar`), so that a
line ending is never inside a character, and what stands between line endings is a sequence of whole
characters again (`Newlines.exists_encode_of_mem_piecesAfter`).

A source that delivers the bytes of a text therefore gives its lines and no error
(`Source.exists_texts_of_isValidUTF8`).
-/

namespace PersonRelations

/-! ### Characters and bytes -/

namespace Text.Utf8

/-- The bytes of the characters. -/
def encode (cs : List Char) : List UInt8 :=
  cs.flatMap String.utf8EncodeChar

theorem encode_append (cs ds : List Char) : encode (cs ++ ds) = encode cs ++ encode ds :=
  List.flatMap_append

theorem encode_cons (c : Char) (cs : List Char) :
    encode (c :: cs) = String.utf8EncodeChar c ++ encode cs :=
  List.flatMap_cons

theorem encode_singleton (c : Char) : encode [c] = String.utf8EncodeChar c := by
  rw [encode_cons]
  exact List.append_nil _

/-- Bytes are UTF-8 if they are those of some characters. -/
theorem isValidUTF8_iff {bytes : List UInt8} :
    bytes.toByteArray.IsValidUTF8 ↔ ∃ cs, bytes = encode cs := by
  constructor
  · rintro ⟨cs, h⟩
    refine ⟨cs, ?_⟩
    have hdata := congrArg (fun b : ByteArray ↦ b.data.toList) h
    simpa [List.utf8Encode, encode] using hdata
  · rintro ⟨cs, rfl⟩
    exact ⟨cs, rfl⟩

/-- **A byte below 0x80** is all of its character. -/
theorem eq_of_mem_utf8EncodeChar {c : Char} {b : UInt8} (h : b ∈ String.utf8EncodeChar c)
    (hb : b.toNat < 0x80) : String.utf8EncodeChar c = [b] := by
  have htoNat : ∀ n < 256, (UInt8.ofNat n).toNat = n := by
    intro n hn
    exact UInt8.toNat_ofNat_of_lt' hn
  have hhigh : ∀ n, 0x80 ≤ n → n < 256 → b ≠ UInt8.ofNat n := by
    rintro n hlow hn rfl
    rw [htoNat n hn] at hb
    omega
  rw [String.utf8EncodeChar] at h ⊢
  -- a character above 0x7F has bytes from 0x80 on only, whatever their number
  split_ifs at h ⊢ with h₁ h₂ h₃
  · rw [List.mem_singleton.1 h]
  all_goals
    simp only [List.mem_cons, List.not_mem_nil, or_false] at h
    exfalso
  · rcases h with h | h
    · exact hhigh _ (by omega) (by omega) h
    · exact hhigh _ (by omega) (by omega) h
  · rcases h with h | h | h
    · exact hhigh _ (by omega) (by omega) h
    · exact hhigh _ (by omega) (by omega) h
    · exact hhigh _ (by omega) (by omega) h
  · rcases h with h | h | h | h
    · exact hhigh _ (by omega) (by omega) h
    · exact hhigh _ (by omega) (by omega) h
    · exact hhigh _ (by omega) (by omega) h
    · exact hhigh _ (by omega) (by omega) h

/-- A terminator is a character of its own. -/
theorem utf8EncodeChar_cases (c : Char) :
    (∀ b ∈ String.utf8EncodeChar c, isTerminator b = false) ∨
      ∃ t, isTerminator t = true ∧ String.utf8EncodeChar c = [t] := by
  by_cases h : ∀ b ∈ String.utf8EncodeChar c, isTerminator b = false
  · exact Or.inl h
  · simp only [not_forall, Bool.not_eq_false] at h
    obtain ⟨t, ht, hterm⟩ := h
    have hsmall : t.toNat < 0x80 := by
      have hcases : t = lineFeed ∨ t = carriageReturn := by simpa [isTerminator] using hterm
      rcases hcases with rfl | rfl <;> decide
    exact Or.inr ⟨t, hterm, eq_of_mem_utf8EncodeChar ht hsmall⟩

end Text.Utf8

/-! ### Pieces of a text -/

namespace Newlines

open Text.Utf8

/-- Bytes that end no line join the pending ones. -/
theorem piecesAfter_run {text : List UInt8} (h : ∀ b ∈ text, isTerminator b = false)
    (p rest : List UInt8) : piecesAfter p (text ++ rest) = piecesAfter (p ++ text) rest := by
  induction text generalizing p with
  | nil => rw [List.nil_append, List.append_nil]
  | cons b bs ih =>
    have hb : isTerminator b = false := h b List.mem_cons_self
    have hbs : ∀ c ∈ bs, isTerminator c = false := fun c hc ↦ h c (List.mem_cons_of_mem b hc)
    rw [List.cons_append, piecesAfter_text hb, ih hbs, List.append_assoc, List.singleton_append]

/-- Behind a line ending the characters are whole. -/
theorem exists_behind_eq_encode (t : UInt8) {b : UInt8} {bs : List UInt8} {cs : List Char}
    (h : b :: bs = encode cs) : ∃ ds, behind t b bs = encode ds ∧ ds <:+ cs := by
  rw [behind]
  split
  · rename_i hpair
    -- the line feed of the pair is the first character, and the rest are the other ones
    obtain ⟨-, hfeed⟩ := Bool.and_eq_true_iff.1 hpair
    obtain rfl : b = lineFeed := eq_of_beq hfeed
    cases cs with
    | nil => cases h
    | cons c cs =>
      rw [encode_cons] at h
      have hmem : lineFeed ∈ String.utf8EncodeChar c := by
        cases hc : String.utf8EncodeChar c with
        | nil => exact absurd hc String.utf8EncodeChar_ne_nil
        | cons d ds =>
          rw [hc] at h
          obtain rfl : lineFeed = d := (List.cons.inj h).1
          exact List.mem_cons_self
      rw [eq_of_mem_utf8EncodeChar hmem (by decide)] at h
      exact ⟨cs, (List.cons.inj h).2, List.suffix_cons c cs⟩
  · exact ⟨cs, h, List.suffix_rfl⟩

/-- **The pieces of a text are texts.** The induction is on the number of characters, since a pair
of terminators is taken in one go; `ds` are the characters that are pending. -/
theorem exists_encode_of_mem_piecesAfter (ds cs : List Char) :
    ∀ l ∈ piecesAfter (encode ds) (encode cs), ∃ es, l = encode es := by
  induction h : cs.length using Nat.strongRecOn generalizing ds cs with
  | ind len ih =>
  subst h
  intro l hl
  match cs with
  | [] =>
    have hnil : encode [] = [] := rfl
    rw [hnil, piecesAfter_nil, List.mem_singleton] at hl
    exact ⟨ds, hl⟩
  | c :: cs =>
    rw [encode_cons] at hl
    rcases utf8EncodeChar_cases c with htext | ⟨t, ht, hc⟩
    · rw [piecesAfter_run htext, ← encode_singleton, ← encode_append] at hl
      exact ih cs.length (by simp) (ds ++ [c]) cs rfl l hl
    · rw [hc, List.singleton_append] at hl
      cases hcs : encode cs with
      | nil =>
        rw [hcs, piecesAfter_last ht] at hl
        rcases List.mem_cons.1 hl with rfl | hempty
        · exact ⟨ds, rfl⟩
        · exact ⟨[], List.mem_singleton.1 hempty⟩
      | cons b bs =>
        rw [hcs, piecesAfter_terminator ht] at hl
        rcases List.mem_cons.1 hl with rfl | hlater
        · exact ⟨ds, rfl⟩
        · obtain ⟨es, hes, hsuffix⟩ := exists_behind_eq_encode t hcs.symm
          have hlen := hsuffix.length_le
          rw [hes, ← piecesAfter_empty] at hlater
          exact ih es.length (by simp only [List.length_cons]; omega) [] es rfl l hlater

/-- A line is one of the pieces. -/
theorem mem_pieces_of_mem_lines {bytes l : List UInt8} (h : l ∈ lines bytes) :
    l ∈ pieces bytes := by
  rw [lines, List.mem_append] at h
  rcases h with hterminated | hlast
  · exact List.mem_of_mem_dropLast hterminated
  · split at hlast
    · cases hlast
    · rw [List.mem_singleton.1 hlast, unterminated, List.getLastD_eq_getLast?,
        List.getLast?_eq_some_getLast (pieces_ne_nil bytes)]
      exact List.getLast_mem _

/-- **The lines of UTF-8 bytes are UTF-8.** -/
theorem isValidUTF8_of_mem_lines {bytes : List UInt8} (h : bytes.toByteArray.IsValidUTF8)
    {l : List UInt8} (hl : l ∈ lines bytes) : l.toByteArray.IsValidUTF8 := by
  obtain ⟨cs, rfl⟩ := isValidUTF8_iff.1 h
  have hpiece : l ∈ piecesAfter (encode []) (encode cs) := by
    show l ∈ piecesAfter [] (encode cs)
    rw [piecesAfter_empty]
    exact mem_pieces_of_mem_lines hl
  exact isValidUTF8_iff.2 (exists_encode_of_mem_piecesAfter [] cs l hpiece)

end Newlines

/-- **A source that delivers a text** gives all its lines, and no error. -/
theorem Source.exists_texts_of_isValidUTF8 {s : Source} {bytes : List UInt8}
    (h : s.events = bytes.map .byte) (hvalid : bytes.toByteArray.IsValidUTF8) :
    ∃ texts : List String, texts.map (fun l ↦ l.toUTF8.data.toList) = Newlines.lines bytes ∧
      s.lines = texts.map .ok := by
  rw [Source.lines_of_bytes h]
  rcases ByteSplitter.giveLines_cases 0 (Newlines.lines bytes) with
    ⟨texts, htexts, hgive⟩ | ⟨texts, l, rest, f, hlines, hbad, -⟩
  · exact ⟨texts, htexts, by rw [hgive, List.append_nil]⟩
  · have hl : l ∈ Newlines.lines bytes := by
      rw [← hlines]
      exact List.mem_append_right _ List.mem_cons_self
    have hline : l.toByteArray.IsValidUTF8 := Newlines.isValidUTF8_of_mem_lines hvalid hl
    rw [Text.Utf8.decode, dif_pos hline] at hbad
    cases hbad

end PersonRelations
