import PersonRelations.Proofs.Lines.ByteSplitter

/-!
# Calls of a line reader

A reader is called again and again, and a source can change its mind between two calls: more bytes
may follow an end mark, and so they may follow a failure. What must not happen is that the reader
goes on behind its end. Whether it asks the source at all cannot be seen from the items, nor from
the source, which stays as it is when it is asked at its end. The requests are therefore noted:

* `Source.fill` and `Source.consume` are what can be asked of a source. A `TracedSource` notes both,
  and `LineSearch.runTraced` is the search for the end of a line that touches its source through
  nothing else. It finds what `LineSearch.run` finds (`LineSearch.runTraced_eq`).
* `LineReader.requests` are the requests that one call makes; noting them makes no difference to the
  call (`LineReader.nextTraced_eq`). There are none exactly if the reader is finished
  (`LineReader.requests_eq_nil_iff`).

`LineReader.next_cases` says what one call does: it gives a line and counts it, or it finishes the
reader. From there on it is an induction on the number of calls that the lines given are those
counted (`LineReader.consistent_given`), and that a finished reader stays as it is
(`LineReader.after_of_finished`). `reader_is_fused` is the result.
-/

namespace PersonRelations

/-! ### Requests to a source -/

namespace Source

/-- What the source shows when asked for data, and the source behind it. Bytes are shown until they
are consumed; an end mark, an interruption and a failure are given once. -/
def fill : Source → Fill × Source
  | [] => (.chunk [], [])
  | .chunk (b :: bs) :: s => (.chunk (b :: bs), .chunk (b :: bs) :: s)
  | f :: s => (f, s)

/-- The source once `n` of the bytes that it shows have been used. -/
def consume (n : Nat) : Source → Source
  | .chunk bytes :: s => if (bytes.drop n).isEmpty then s else .chunk (bytes.drop n) :: s
  | s => s

theorem consume_all (b : UInt8) (bs : List UInt8) (s : Source) :
    consume (bs.length + 1) (.chunk (b :: bs) :: s) = s := by
  simp [consume]

/-- Bytes that were used up to a terminator are cut behind it. -/
theorem consume_behind {bytes text rest : List UInt8} {start : Nat} {t : UInt8} (s : Source)
    (h : bytes.drop start = text ++ t :: rest) :
    consume (start + text.length + 1) (.chunk bytes :: s) =
      if rest.isEmpty then s else .chunk rest :: s := by
  have hdrop : bytes.drop (start + text.length + 1) = rest := by
    rw [Nat.add_assoc, ← List.drop_drop, h, List.drop_length_add_append]
    rfl
  rw [consume, hdrop]

/-- A request that is made to a source. -/
inductive Request where
  /-- To show what is at hand. -/
  | fill
  /-- To count `n` bytes as used. -/
  | consume (n : Nat)
  deriving DecidableEq, Repr

/-- A reader that has not been called yet. -/
def reader (s : Source) : LineReader := ⟨s, 0, false, false⟩

end Source

/-- A source that notes the requests made to it. -/
structure TracedSource where
  source : Source
  /-- The requests so far, in order. -/
  requests : List Source.Request := []

namespace TracedSource

/-- Asks for data. -/
def fill (t : TracedSource) : Fill × TracedSource :=
  (t.source.fill.1, ⟨t.source.fill.2, t.requests ++ [.fill]⟩)

/-- Counts bytes as used. -/
def consume (n : Nat) (t : TracedSource) : TracedSource :=
  ⟨t.source.consume n, t.requests ++ [.consume n]⟩

theorem size_of_interrupted {t t' : TracedSource} (h : t.fill = (.interrupted, t')) :
    t'.source.size < t.source.size := by
  obtain ⟨s, requests⟩ := t
  match s with
  | [] => cases h
  | .chunk [] :: s => cases h
  | .chunk (b :: bs) :: s => cases h
  | .failure f :: s => cases h
  | .interrupted :: s =>
    cases h
    exact Source.size_lt_cons _ s

theorem size_of_chunk {t t' : TracedSource} {b : UInt8} {bs : List UInt8}
    (h : t.fill = (.chunk (b :: bs), t')) :
    (t'.consume (bs.length + 1)).source.size < t.source.size := by
  obtain ⟨s, requests⟩ := t
  match s with
  | [] => cases h
  | .chunk [] :: s => cases h
  | .failure f :: s => cases h
  | .interrupted :: s => cases h
  | .chunk (c :: cs) :: s =>
    cases h
    show Source.size (Source.consume (bs.length + 1) (.chunk (b :: bs) :: s)) < _
    rw [Source.consume_all]
    exact Source.size_lt_cons _ s

end TracedSource

/-- The search for the end of a line, request by request. Bytes that were shown are looked through
for a terminator and counted as used up to and with it, or all of them if there is none. -/
def LineSearch.runTraced (afterReturn : Bool) (pending : ByteArray) (t : TracedSource) :
    LineSearch × Bool × TracedSource :=
  match _h : t.fill with
  | (.interrupted, t) => runTraced afterReturn pending t
  | (.failure f, t) => (.failed f, afterReturn, t)
  | (.chunk [], t) => (.ended pending, afterReturn, t)
  | (.chunk (b :: bs), t) =>
    let start := if afterReturn && b == lineFeed then 1 else 0
    let bytes := (b :: bs).drop start
    let text := bytes.takeWhile fun c ↦ !isTerminator c
    match bytes.dropWhile fun c ↦ !isTerminator c with
    | [] => runTraced false (pending ++ text.toByteArray) (t.consume (bs.length + 1))
    | c :: _ =>
      (.line (pending ++ text.toByteArray), c == carriageReturn, t.consume (start + text.length + 1))
termination_by t.source.size
decreasing_by
  · exact TracedSource.size_of_interrupted _h
  · exact TracedSource.size_of_chunk _h

namespace LineSearch

/-- **The search by requests** finds what the search over the whole source finds. -/
theorem runTraced_eq (afterReturn : Bool) (pending : ByteArray) (s : Source)
    (requests : List Source.Request) :
    (runTraced afterReturn pending ⟨s, requests⟩).1 = (run afterReturn pending s).1 ∧
      (runTraced afterReturn pending ⟨s, requests⟩).2.1 = (run afterReturn pending s).2.1 ∧
      (runTraced afterReturn pending ⟨s, requests⟩).2.2.source =
        (run afterReturn pending s).2.2 := by
  fun_induction run afterReturn pending s generalizing requests with
  | case1 a p =>
    rw [runTraced]
    exact ⟨rfl, rfl, rfl⟩
  | case2 a p s ih =>
    rw [runTraced]
    exact ih _
  | case3 a p f s =>
    rw [runTraced]
    exact ⟨rfl, rfl, rfl⟩
  | case4 a p s =>
    rw [runTraced]
    exact ⟨rfl, rfl, rfl⟩
  | case5 a p b bs s bytes text h ih =>
    have hbytes : (b :: bs).drop (if a && b == lineFeed then 1 else 0) = bytes :=
      apply_ite (List.drop · (b :: bs)) _ _ _
    rw [runTraced]
    simp only [TracedSource.fill, Source.fill, hbytes, h, TracedSource.consume, Source.consume_all]
    exact ih _
  | case6 a p b bs s bytes text t rest h =>
    have hbytes : (b :: bs).drop (if a && b == lineFeed then 1 else 0) = bytes :=
      apply_ite (List.drop · (b :: bs)) _ _ _
    have hcut : (b :: bs).drop (if a && b == lineFeed then 1 else 0) = text ++ t :: rest := by
      rw [hbytes, ← h]
      exact List.takeWhile_append_dropWhile.symm
    rw [runTraced]
    simp only [TracedSource.fill, Source.fill, hbytes, h, TracedSource.consume, true_and]
    exact ⟨rfl, Source.consume_behind s hcut⟩

/-- The first request of a search is for data. -/
theorem fill_prefix_requests (afterReturn : Bool) (pending : ByteArray) (t : TracedSource) :
    t.requests ++ [.fill] <+: (runTraced afterReturn pending t).2.2.requests := by
  fun_induction runTraced afterReturn pending t with
  | case1 a p t t' h ih =>
    obtain rfl : t.fill.2 = t' := congrArg Prod.snd h
    exact (List.prefix_append _ _).trans ih
  | case2 a p t f t' h =>
    obtain rfl : t.fill.2 = t' := congrArg Prod.snd h
    exact List.prefix_rfl
  | case3 a p t t' h =>
    obtain rfl : t.fill.2 = t' := congrArg Prod.snd h
    exact List.prefix_rfl
  | case4 a p t b bs t' h start bytes text hrest ih =>
    obtain rfl : t.fill.2 = t' := congrArg Prod.snd h
    exact (List.prefix_append _ _).trans ((List.prefix_append _ _).trans ih)
  | case5 a p t b bs t' h start bytes text c rest hrest =>
    obtain rfl : t.fill.2 = t' := congrArg Prod.snd h
    exact List.prefix_append _ _

end LineSearch

/-! ### One call -/

namespace LineReader

variable {r : LineReader}

/-- The next item, the reader after it, and the requests that were made. -/
def nextTraced (r : LineReader) : Option LineItem × LineReader × List Source.Request :=
  if r.finished then (none, r, [])
  else
    let (search, afterReturn, t) :=
      LineSearch.runTraced r.afterReturn ByteArray.empty ⟨r.source, []⟩
    let (item?, next) := r.conclude (search, afterReturn, t.source)
    (item?, next, t.requests)

/-- The requests that a call makes to the source. -/
def requests (r : LineReader) : List Source.Request :=
  r.nextTraced.2.2

/-- **Noting requests** makes no difference to a call. -/
theorem nextTraced_eq (r : LineReader) : (r.nextTraced.1, r.nextTraced.2.1) = r.next := by
  cases hr : r.finished with
  | true => rw [next_of_finished hr, nextTraced, if_pos hr]
  | false =>
    obtain ⟨hsearch, hafter, hrest⟩ :=
      LineSearch.runTraced_eq r.afterReturn ByteArray.empty r.source []
    rw [next_of_not_finished hr, nextTraced, if_neg (by simp [hr])]
    show r.conclude _ = _
    rw [hsearch, hafter, hrest]

/-- **A call makes no request** exactly if the reader is finished. -/
theorem requests_eq_nil_iff : r.requests = [] ↔ r.finished = true := by
  rw [requests, nextTraced]
  cases hr : r.finished with
  | true => simp
  | false =>
    have hfirst := LineSearch.fill_prefix_requests r.afterReturn ByteArray.empty ⟨r.source, []⟩
    simp only [Bool.false_eq_true, if_false, iff_false]
    intro hnil
    rw [hnil, List.prefix_nil] at hfirst
    cases hfirst

/-- Delivering bytes gives a line and counts it, or finishes the reader with an error. -/
theorem deliver_cases (r : LineReader) (bytes : ByteArray) (afterReturn : Bool) (rest : Source) :
    (∃ line, (r.deliver bytes afterReturn rest).1 = some (.ok line) ∧
      (r.deliver bytes afterReturn rest).2.linesRead = r.linesRead + 1 ∧
      (r.deliver bytes afterReturn rest).2.finished = false) ∨
    ∃ f, (r.deliver bytes afterReturn rest).1 = some (.error (.inputRead (r.linesRead + 1) f)) ∧
      (r.deliver bytes afterReturn rest).2.finished = true := by
  rw [deliver]
  cases Text.Utf8.decode bytes with
  | ok line => exact Or.inl ⟨line, rfl, rfl, rfl⟩
  | error f => exact Or.inr ⟨.utf8 f, rfl, rfl⟩

/-- **What one call does.** It gives a line and counts it; or it gives an error at the line behind
those counted, and finishes the reader; or it gives nothing, and the reader is finished. -/
theorem next_cases (r : LineReader) :
    (∃ line, r.next.1 = some (.ok line) ∧ r.next.2.linesRead = r.linesRead + 1 ∧
      r.next.2.finished = false) ∨
    (∃ f, r.next.1 = some (.error (.inputRead (r.linesRead + 1) f)) ∧
      r.next.2.finished = true) ∨
    r.next.1 = none ∧ r.next.2.finished = true := by
  cases hr : r.finished with
  | true =>
    rw [next_of_finished hr]
    exact Or.inr (Or.inr ⟨rfl, hr⟩)
  | false =>
    rw [next_of_not_finished hr]
    rcases LineSearch.run r.afterReturn ByteArray.empty r.source with
      ⟨bytes | bytes | f, a, rest⟩
    · exact (r.deliver_cases bytes a rest).imp_right Or.inl
    · rw [conclude]
      split
      · exact Or.inr (Or.inr ⟨rfl, rfl⟩)
      · exact (r.deliver_cases bytes a rest).imp_right Or.inl
    · exact Or.inr (Or.inl ⟨f, rfl, rfl⟩)

/-! ### Call after call -/

/-- The reader after `n` calls. -/
def after (r : LineReader) : Nat → LineReader
  | 0 => r
  | n + 1 => (r.after n).next.2

/-- What call number `n` gives, counted from 0. -/
def answer (r : LineReader) (n : Nat) : Option LineItem :=
  (r.after n).next.1

/-- The items that the first `n` calls give. -/
def given (r : LineReader) (n : Nat) : List LineItem :=
  (List.range n).filterMap r.answer

theorem given_succ (r : LineReader) (n : Nat) :
    r.given (n + 1) = r.given n ++ (r.answer n).toList := by
  rw [given, List.range_succ, List.filterMap_append]
  cases hanswer : r.answer n <;> simp [given, hanswer]

/-- **A finished reader** stays as it is. -/
theorem after_of_finished {n : Nat} (h : (r.after n).finished = true) {m : Nat} (hm : n ≤ m) :
    r.after m = r.after n := by
  induction m, hm using Nat.le_induction with
  | base => rfl
  | succ m _ ih =>
    rw [after, ih, next_of_finished h]

/-- What a reader has given and what it has counted. Lines were given, and they are those counted;
or an error was given behind them, at the line that would have been next, and the reader is
finished. -/
def Consistent (items : List LineItem) (r : LineReader) : Prop :=
  ∃ texts : List String,
    (items = texts.map .ok ∧ (r.finished = false → r.linesRead = texts.length)) ∨
    ∃ f, items = texts.map .ok ++ [.error (.inputRead (texts.length + 1) f)] ∧ r.finished = true

/-- **One call keeps what was given consistent.** -/
theorem Consistent.next {items : List LineItem} (h : Consistent items r) :
    Consistent (items ++ r.next.1.toList) r.next.2 := by
  cases hr : r.finished with
  | true =>
    rw [next_of_finished hr]
    simpa using h
  | false =>
    obtain ⟨texts, ⟨rfl, hcount⟩ | ⟨f, -, hfinished⟩⟩ := h
    · have hlines := hcount hr
      rcases r.next_cases with ⟨line, hline, hnext, -⟩ | ⟨f, herror, hnext⟩ | ⟨hnone, hnext⟩
      · refine ⟨texts ++ [line], Or.inl ⟨?_, fun _ ↦ ?_⟩⟩
        · rw [hline, List.map_append]
          rfl
        · rw [hnext, hlines, List.length_append, List.length_singleton]
      · refine ⟨texts, Or.inr ⟨f, ?_, hnext⟩⟩
        rw [herror, hlines]
        rfl
      · refine ⟨texts, Or.inl ⟨?_, fun hunfinished ↦ ?_⟩⟩
        · rw [hnone]
          exact List.append_nil _
        · rw [hnext] at hunfinished
          cases hunfinished
    · rw [hr] at hfinished
      cases hfinished

/-- **All calls** of a reader that has counted nothing before. -/
theorem consistent_given (h : r.linesRead = 0) (n : Nat) : Consistent (r.given n) (r.after n) := by
  induction n with
  | zero => exact ⟨[], Or.inl ⟨rfl, fun _ ↦ h⟩⟩
  | succ n ih =>
    rw [given_succ]
    exact ih.next

/-- Behind an answer that is no line the reader is finished. -/
theorem finished_of_answer {n : Nat} (h : ∀ line, r.answer n ≠ some (.ok line)) :
    (r.after (n + 1)).finished = true := by
  rcases (r.after n).next_cases with ⟨line, hline, -⟩ | ⟨f, -, hnext⟩ | ⟨-, hnext⟩
  · exact absurd hline (h line)
  · exact hnext
  · exact hnext

/-- Behind a line it is not. -/
theorem not_finished_of_answer {n : Nat} {line : String} (h : r.answer n = some (.ok line)) :
    (r.after (n + 1)).finished = false := by
  rcases (r.after n).next_cases with ⟨-, -, -, hnext⟩ | ⟨f, herror, -⟩ | ⟨hnone, -⟩
  · exact hnext
  · rw [answer, herror] at h
    cases h
  · rw [answer, hnone] at h
    cases h

/-! ### Calls and items -/

theorem items_eq_view (r : LineReader) : r.items = r.view := by
  show (drainFrom #[] r).1.toList = r.view
  rw [drainFrom_items]
  rfl

/-- A call gives the first of the items that are left. -/
theorem next_eq_view (r : LineReader) :
    r.next.1 = r.view.head? ∧ r.next.2.view = r.view.tail := by
  rw [view_eq_next r]
  rcases hnext : r.next with ⟨_ | item, r'⟩
  · rw [view_of_next_eq_none hnext]
    exact ⟨rfl, rfl⟩
  · exact ⟨rfl, rfl⟩

theorem view_after (r : LineReader) (n : Nat) : (r.after n).view = r.view.drop n := by
  induction n with
  | zero => rfl
  | succ n ih => rw [after, ((r.after n).next_eq_view).2, ih, List.tail_drop]

/-- **The answers are the items**, one for each call, and then nothing. -/
theorem answer_eq_getElem? (r : LineReader) (n : Nat) : r.answer n = r.items[n]? := by
  rw [answer, ((r.after n).next_eq_view).1, view_after, List.head?_drop, items_eq_view]

end LineReader

/-- **A reader is fused.** A source answers as it likes, with bytes, end marks, interruptions and
failures in any order, and its reader is called any number of times.

* The items given are lines, with an error behind them at most, whose line number is one more than
  the number of these lines.
* Once a call has given nothing or an error, every later call gives nothing. It makes no request to
  the source, and the source is left as it is, whatever it still has.
* Up to there, every call asks the source for data. -/
theorem reader_is_fused (s : Source) :
    (∀ n, ∃ texts : List String, s.reader.given n = texts.map .ok ∨
      ∃ f, s.reader.given n = texts.map .ok ++ [.error (.inputRead (texts.length + 1) f)]) ∧
    (∀ i, (s.reader.answer i = none ∨ ∃ e, s.reader.answer i = some (.error e)) → ∀ j, i < j →
      s.reader.answer j = none ∧ (s.reader.after j).requests = [] ∧
        (s.reader.after j).source = (s.reader.after (i + 1)).source) ∧
    ∀ i, (∀ j < i, ∃ line, s.reader.answer j = some (.ok line)) →
      (s.reader.after i).requests ≠ [] := by
  refine ⟨fun n ↦ ?_, fun i hi j hij ↦ ?_, fun i hi ↦ ?_⟩
  · obtain ⟨texts, ⟨hlines, -⟩ | ⟨f, herror, -⟩⟩ := LineReader.consistent_given (r := s.reader) rfl n
    · exact ⟨texts, Or.inl hlines⟩
    · exact ⟨texts, Or.inr ⟨f, herror⟩⟩
  · have hfinished : (s.reader.after (i + 1)).finished = true := by
      refine LineReader.finished_of_answer fun line hline ↦ ?_
      rcases hi with hnone | ⟨e, herror⟩
      · rw [hnone] at hline
        cases hline
      · rw [herror] at hline
        cases hline
    have hafter : s.reader.after j = s.reader.after (i + 1) :=
      LineReader.after_of_finished hfinished hij
    rw [LineReader.answer, hafter, LineReader.next_of_finished hfinished]
    exact ⟨rfl, LineReader.requests_eq_nil_iff.2 hfinished, rfl⟩
  · rw [Ne, LineReader.requests_eq_nil_iff, Bool.not_eq_true]
    cases i with
    | zero => rfl
    | succ i =>
      obtain ⟨line, hline⟩ := hi i (Nat.lt_succ_self i)
      exact LineReader.not_finished_of_answer hline

/-- A line, a failure, and then bytes that are not asked for. -/
def revivedSource : Source :=
  [.chunk [0x61, 0x0D], .interrupted, .failure (.other "device error"), .chunk [0x62, 0x0A]]

/-- The error is that of the second line. The third call and those behind it leave the last chunk
where it is. -/
theorem reader_is_fused_revived :
    revivedSource.reader.given 9 =
        [.ok "a", .error (.inputRead 2 (.other "device error"))] ∧
      (revivedSource.reader.after 1).requests = [.fill, .fill] ∧
      ∀ j, 1 < j → revivedSource.reader.answer j = none ∧
        (revivedSource.reader.after j).requests = [] ∧
        (revivedSource.reader.after j).source = [.chunk [0x62, 0x0A]] := by
  have hgiven : revivedSource.reader.given 9 =
      [.ok "a", .error (.inputRead 2 (.other "device error"))] := by decide +kernel
  have herror : revivedSource.reader.answer 1 =
      some (.error (.inputRead 2 (.other "device error"))) := by decide +kernel
  have hrest : (revivedSource.reader.after 2).source = [.chunk [0x62, 0x0A]] := by decide +kernel
  obtain ⟨-, hfused, -⟩ := reader_is_fused revivedSource
  refine ⟨hgiven, by decide +kernel, fun j hj ↦ ?_⟩
  obtain ⟨hnone, hrequests, hsource⟩ := hfused 1 (Or.inr ⟨_, herror⟩) j hj
  exact ⟨hnone, hrequests, hsource.trans hrest⟩

end PersonRelations
