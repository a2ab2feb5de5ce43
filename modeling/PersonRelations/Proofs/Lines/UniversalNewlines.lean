import PersonRelations.Proofs.Lines.ByteSplitter

/-!
# Universal newlines

What the lines of a byte stream are, said without a reader: `Newlines.unify` writes each line
ending as one line feed, and the stream is then cut at its line feeds. The last piece stands behind
the last line ending; it is a line of its own only if it is not empty (`Newlines.lines`), and where
the stream breaks off it is no line at all (`Newlines.terminated`).

* `Source.lines_of_bytes`: a source that delivers bytes and then ends gives `Newlines.lines` of
  them.
* `Source.lines_of_failure`: a source that delivers bytes and then fails gives
  `Newlines.terminated` of them, and then the failure.

Both say *gives* in the sense of `giveLines`: lines are given as long as they are UTF-8, and the
first one that is not is an error behind which nothing comes. `giveLines_cases` takes the two
outcomes apart, for all continuations at once; two streams with a common beginning are compared
through it.
-/

namespace PersonRelations

namespace Newlines

/-- The bytes with every line ending written as one line feed. -/
def unify : List UInt8 → List UInt8
  | [] => []
  | [b] => [if b = carriageReturn then lineFeed else b]
  | b :: c :: bs =>
    if b = carriageReturn then
      if c = lineFeed then lineFeed :: unify bs else lineFeed :: unify (c :: bs)
    else b :: unify (c :: bs)

/-- What stands between line endings, and before the first and behind the last one. -/
def pieces (bytes : List UInt8) : List (List UInt8) :=
  (unify bytes).splitOn lineFeed

/-- The lines that have a line ending. -/
def terminated (bytes : List UInt8) : List (List UInt8) :=
  (pieces bytes).dropLast

/-- What stands behind the last line ending. -/
def unterminated (bytes : List UInt8) : List UInt8 :=
  (pieces bytes).getLastD []

/-- All lines; the last one needs no line ending if it has a byte. -/
def lines (bytes : List UInt8) : List (List UInt8) :=
  terminated bytes ++ if (unterminated bytes).isEmpty then [] else [unterminated bytes]

/-! ### Pieces behind pending bytes -/

/-- The pieces of bytes that come behind pending ones. -/
def piecesAfter (p bytes : List UInt8) : List (List UInt8) :=
  (pieces bytes).modifyHead (p ++ ·)

theorem pieces_ne_nil (bytes : List UInt8) : pieces bytes ≠ [] :=
  List.splitOn_ne_nil _ _

theorem piecesAfter_ne_nil (p bytes : List UInt8) : piecesAfter p bytes ≠ [] := by
  obtain ⟨l, ls, h⟩ := List.exists_cons_of_ne_nil (pieces_ne_nil bytes)
  simp [piecesAfter, h]

@[simp] theorem piecesAfter_empty (bytes : List UInt8) : piecesAfter [] bytes = pieces bytes := by
  obtain ⟨l, ls, h⟩ := List.exists_cons_of_ne_nil (pieces_ne_nil bytes)
  simp [piecesAfter, h]

@[simp] theorem piecesAfter_nil (p : List UInt8) : piecesAfter p [] = [p] := by
  simp [piecesAfter, pieces, unify]

theorem unify_cons_of_ne {b : UInt8} (h : b ≠ carriageReturn) (bs : List UInt8) :
    unify (b :: bs) = b :: unify bs := by
  cases bs with
  | nil => simp [unify, h]
  | cons c bs => simp [unify, h]

/-- A byte that ends no line joins the pending ones. -/
theorem piecesAfter_text {b : UInt8} (h : isTerminator b = false) (p bs : List UInt8) :
    piecesAfter p (b :: bs) = piecesAfter (p ++ [b]) bs := by
  simp only [isTerminator, Bool.or_eq_false_iff, beq_eq_false_iff_ne] at h
  obtain ⟨l, ls, hl⟩ := List.exists_cons_of_ne_nil (pieces_ne_nil bs)
  rw [pieces] at hl
  rw [piecesAfter, piecesAfter, pieces, pieces, unify_cons_of_ne h.2,
    List.splitOn_cons_eq_if_modifyHead, if_neg (by simpa using h.1), hl]
  simp

/-- What stands behind a terminator: the line feed of a pair belongs to the carriage return. -/
def behind (t c : UInt8) (cs : List UInt8) : List UInt8 :=
  if t == carriageReturn && c == lineFeed then cs else c :: cs

theorem length_behind_le (t c : UInt8) (cs : List UInt8) :
    (behind t c cs).length ≤ cs.length + 1 := by
  rw [behind]
  split <;> simp

theorem unify_terminator {t : UInt8} (ht : isTerminator t = true) (c : UInt8) (cs : List UInt8) :
    unify (t :: c :: cs) = lineFeed :: unify (behind t c cs) := by
  by_cases hcr : t = carriageReturn
  · subst hcr
    by_cases hc : c = lineFeed <;> simp [unify, behind, hc]
  · have hlf : t = lineFeed := by simpa [isTerminator, hcr] using ht
    rw [unify_cons_of_ne hcr, behind, if_neg (by simp [hcr]), hlf]

/-- **A terminator** ends the first piece. -/
theorem piecesAfter_terminator {t : UInt8} (ht : isTerminator t = true) (p : List UInt8)
    (c : UInt8) (cs : List UInt8) :
    piecesAfter p (t :: c :: cs) = p :: pieces (behind t c cs) := by
  rw [piecesAfter, pieces, unify_terminator ht, List.splitOn_cons_eq_if_modifyHead,
    if_pos (by simp)]
  simp [pieces]

theorem piecesAfter_last {t : UInt8} (ht : isTerminator t = true) (p : List UInt8) :
    piecesAfter p [t] = [p, []] := by
  have : t = lineFeed ∨ t = carriageReturn := by simpa [isTerminator] using ht
  rcases this with rfl | rfl <;>
    simp [piecesAfter, pieces, unify, List.splitOn_cons_eq_if_modifyHead]

theorem dropLast_cons_pieces (p bytes : List UInt8) :
    (p :: pieces bytes).dropLast = p :: terminated bytes :=
  List.dropLast_cons_of_ne_nil (pieces_ne_nil bytes)

theorem getLastD_cons_pieces (p bytes : List UInt8) :
    (p :: pieces bytes).getLastD [] = unterminated bytes := by
  obtain ⟨l, ls, h⟩ := List.exists_cons_of_ne_nil (pieces_ne_nil bytes)
  simp [unterminated, h]

theorem behind_append (t c : UInt8) (cs es : List UInt8) :
    behind t c (cs ++ es) = behind t c cs ++ es := by
  rw [behind, behind]
  split <;> rfl

/-- Bytes that come later change only the last piece. The induction is on the number of bytes before
them, since a pair of terminators is taken in one go. -/
theorem exists_piecesAfter_append (p bytes es : List UInt8) :
    ∃ rest, rest ≠ [] ∧ piecesAfter p (bytes ++ es) = (piecesAfter p bytes).dropLast ++ rest := by
  induction h : bytes.length using Nat.strongRecOn generalizing bytes p with
  | ind len ih =>
  subst h
  match bytes with
  | [] =>
    rw [piecesAfter_nil]
    exact ⟨_, piecesAfter_ne_nil p es, rfl⟩
  | b :: bs =>
    by_cases hb : isTerminator b = false
    · rw [List.cons_append, piecesAfter_text hb, piecesAfter_text hb]
      exact ih bs.length (by simp) _ bs rfl
    rw [Bool.not_eq_false] at hb
    match bs with
    | [] =>
      rw [piecesAfter_last hb]
      match es with
      | [] => exact ⟨[[]], by simp, piecesAfter_last hb p⟩
      | c :: cs => exact ⟨_, pieces_ne_nil _, piecesAfter_terminator hb p c cs⟩
    | c :: cs =>
      have hlen := length_behind_le b c cs
      obtain ⟨rest, hrest, heq⟩ := ih (behind b c cs).length
        (by simp only [List.length_cons]; omega) [] (behind b c cs) rfl
      rw [piecesAfter_empty, piecesAfter_empty, ← behind_append] at heq
      refine ⟨rest, hrest, ?_⟩
      rw [piecesAfter_terminator hb, dropLast_cons_pieces, List.cons_append, List.cons_append,
        piecesAfter_terminator hb, heq]
      rfl

/-- **A line that has its ending** is a line of every longer stream. -/
theorem terminated_prefix_lines {read bytes : List UInt8} (h : read <+: bytes) :
    terminated read <+: lines bytes := by
  obtain ⟨es, rfl⟩ := h
  obtain ⟨rest, hrest, heq⟩ := exists_piecesAfter_append [] read es
  rw [piecesAfter_empty, piecesAfter_empty] at heq
  rw [lines, terminated, terminated, heq, List.dropLast_append_of_ne_nil hrest, List.append_assoc]
  exact List.prefix_append _ _

/-- Whether the bytes end in a carriage return. -/
def endsInReturn (bytes : List UInt8) : Bool :=
  bytes.getLast? == some carriageReturn

theorem endsInReturn_cons_of_ne {b : UInt8} (h : b ≠ carriageReturn) (bs : List UInt8) :
    endsInReturn (b :: bs) = endsInReturn bs := by
  cases bs with
  | nil => simp [endsInReturn, h]
  | cons c bs => rfl

theorem endsInReturn_terminator (t c : UInt8) (cs : List UInt8) :
    endsInReturn (t :: c :: cs) = endsInReturn (behind t c cs) := by
  rw [behind]
  split
  · rename_i h
    rw [Bool.and_eq_true] at h
    rw [eq_of_beq h.2]
    exact endsInReturn_cons_of_ne (by decide) cs
  · rfl

end Newlines

/-! ### Giving lines one after the other -/

namespace ByteSplitter

open Newlines

/-- Gives the lines in turn, `n` having been given before, and then what `k` gives. The first line
that is not UTF-8 is an error, and all else is dropped. -/
def giveLines (n : Nat) (k : Nat → List LineItem) : List (List UInt8) → List LineItem
  | [] => k n
  | l :: ls =>
    match Text.Utf8.decode l.toByteArray with
    | .ok line => .ok line :: giveLines (n + 1) k ls
    | .error f => [.error (.inputRead (n + 1) (.utf8 f))]

theorem giveLines_append (n : Nat) (k : Nat → List LineItem) (xs ys : List (List UInt8)) :
    giveLines n k (xs ++ ys) = giveLines n (fun m ↦ giveLines m k ys) xs := by
  induction xs generalizing n with
  | nil => rfl
  | cons x xs ih =>
    rw [List.cons_append, giveLines, giveLines]
    cases Text.Utf8.decode x.toByteArray with
    | ok line => exact congrArg _ (ih (n + 1))
    | error f => rfl

/-- Giving a line and going on is giving it before the lines that follow. -/
theorem resume_emit_eq {es : List Source.Event} {afterReturn : Bool} {k : Nat → List LineItem}
    {ls : List (List UInt8)} (h : ∀ m, items ⟨m, [], afterReturn⟩ es = giveLines m k ls)
    (n : Nat) (p : List UInt8) (a : Bool) :
    resume (emit ⟨n, p, a⟩ afterReturn) es = giveLines n k (p :: ls) := by
  rw [giveLines, emit]
  cases Text.Utf8.decode p.toByteArray with
  | ok line =>
    show .ok line :: items ⟨n + 1, [], afterReturn⟩ es = _
    rw [h]
  | error f => rfl

/-- **A run of bytes**: its pieces but the last are given, the last one is pending, and a carriage
return at its end is remembered. The induction is on the number of bytes, since a pair of
terminators is taken in one go. -/
theorem items_bytes (bytes : List UInt8) (n : Nat) (p : List UInt8) (es : List Source.Event) :
    items ⟨n, p, false⟩ (bytes.map .byte ++ es) =
      giveLines n (fun m ↦ items ⟨m, (piecesAfter p bytes).getLastD [], endsInReturn bytes⟩ es)
        (piecesAfter p bytes).dropLast := by
  induction h : bytes.length using Nat.strongRecOn generalizing bytes n p with
  | ind len ih =>
  subst h
  match bytes with
  | [] =>
    rw [piecesAfter_nil]
    rfl
  | b :: bs =>
    by_cases hb : isTerminator b = false
    · have hne : b ≠ carriageReturn := by
        rintro rfl
        exact absurd hb (by decide)
      rw [piecesAfter_text hb, endsInReturn_cons_of_ne hne, ← ih bs.length (by simp) bs _ _ rfl]
      exact items_text n p [b] (bs.map .byte ++ es) (by simpa using hb)
    rw [Bool.not_eq_false] at hb
    have hgive : items ⟨n, p, false⟩ ((b :: bs).map .byte ++ es) =
        resume (emit ⟨n, p, false⟩ (b == carriageReturn)) (bs.map .byte ++ es) := by
      simpa using items_terminated n p [] b (bs.map .byte ++ es) (by simp) hb
    rw [hgive]
    match bs with
    | [] =>
      -- whether a line feed to be swallowed follows is not known yet
      rw [piecesAfter_last hb]
      exact resume_emit_eq (fun _ ↦ rfl) n p false
    | c :: cs =>
      rw [piecesAfter_terminator hb, dropLast_cons_pieces, getLastD_cons_pieces,
        endsInReturn_terminator]
      refine resume_emit_eq (fun m ↦ ?_) n p false
      -- a swallowed line feed makes the rest shorter by one more, so the induction is on the length
      have hlen := length_behind_le b c cs
      have hrec := ih (behind b c cs).length (by simp only [List.length_cons]; omega)
        (behind b c cs) m [] rfl
      rw [piecesAfter_empty] at hrec
      exact (items_skip m [] (b == carriageReturn) c cs es).trans hrec

/-- Bytes from the start of a stream, and what comes behind them. -/
theorem items_start (bytes : List UInt8) (es : List Source.Event) :
    items {} (bytes.map .byte ++ es) =
      giveLines 0 (fun m ↦ items ⟨m, unterminated bytes, endsInReturn bytes⟩ es)
        (terminated bytes) := by
  have h := items_bytes bytes 0 [] es
  rwa [piecesAfter_empty] at h

end ByteSplitter

/-! ### The lines of a source -/

open ByteSplitter

/-- **A stream that ends** gives all its lines. -/
theorem Source.lines_of_bytes {s : Source} {bytes : List UInt8}
    (h : s.events = bytes.map .byte) :
    s.lines = giveLines 0 (fun _ ↦ []) (Newlines.lines bytes) := by
  rw [s.lines_eq_items, h, ← List.append_nil (bytes.map _), items_start, Newlines.lines,
    giveLines_append]
  congr 1
  funext m
  -- the end of the source is an end mark, which gives what is pending unless it is empty
  rw [items, step]
  split
  · rfl
  · rw [giveLines, emit]
    cases Text.Utf8.decode (Newlines.unterminated bytes).toByteArray with
    | ok line => rfl
    | error f => rfl

/-- **A stream that breaks off** gives the lines that have an ending, and then the failure. What
stands behind the last ending is not given. -/
theorem Source.lines_of_failure {s : Source} {bytes : List UInt8} {f : Fault}
    {later : List Source.Event} (h : s.events = bytes.map .byte ++ .failure f :: later) :
    s.lines =
      giveLines 0 (fun m ↦ [.error (.inputRead (m + 1) f)]) (Newlines.terminated bytes) := by
  rw [s.lines_eq_items, h, items_start]
  rfl

/-- **Two outcomes** of giving lines, whatever comes behind them: they are all UTF-8 and given, or
those before the first that is not are given, and then the error. -/
theorem ByteSplitter.giveLines_cases (n : Nat) (ls : List (List UInt8)) :
    (∃ texts : List String, texts.map (fun t ↦ t.toUTF8.data.toList) = ls ∧
      ∀ k, giveLines n k ls = texts.map .ok ++ k (n + texts.length)) ∨
    ∃ (texts : List String) (l : List UInt8) (rest : List (List UInt8)) (f : Text.Utf8.Fault),
      texts.map (fun t ↦ t.toUTF8.data.toList) ++ l :: rest = ls ∧
      Text.Utf8.decode l.toByteArray = .error f ∧
      ∀ k, giveLines n k ls =
        texts.map .ok ++ [.error (.inputRead (n + texts.length + 1) (.utf8 f))] := by
  induction ls generalizing n with
  | nil => exact Or.inl ⟨[], rfl, fun _ ↦ rfl⟩
  | cons l ls ih =>
    cases hl : Text.Utf8.decode l.toByteArray with
    | error f =>
      refine Or.inr ⟨[], l, ls, f, rfl, hl, fun k ↦ ?_⟩
      rw [giveLines, hl]
      rfl
    | ok line =>
      have hline : line.toUTF8.data.toList = l := by
        rw [← Text.Utf8.decode_eq_ok_iff.1 hl, List.data_toByteArray]
      have hgive : ∀ k, giveLines n k (l :: ls) = .ok line :: giveLines (n + 1) k ls := by
        intro k
        rw [giveLines, hl]
      have hnumber : ∀ texts : List String, n + 1 + texts.length = n + (line :: texts).length := by
        intro texts
        rw [List.length_cons]
        omega
      rcases ih (n + 1) with ⟨texts, hbytes, h⟩ | ⟨texts, bad, rest, f, hbytes, hbad, h⟩
      · refine Or.inl ⟨line :: texts, by rw [List.map_cons, hline, hbytes], fun k ↦ ?_⟩
        rw [hgive, h, hnumber]
        rfl
      · refine Or.inr ⟨line :: texts, bad, rest, f, ?_, hbad, fun k ↦ ?_⟩
        · rw [List.map_cons, hline, List.cons_append, hbytes]
        · rw [hgive, h, hnumber]
          rfl

end PersonRelations
