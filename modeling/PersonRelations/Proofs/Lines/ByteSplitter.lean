import Mathlib
import PersonRelations.Input.LineReader

/-!
# Reading lines byte by byte

`LineReader` looks at a whole chunk at once. The `ByteSplitter` here knows no chunks: it is an
automaton over the events that a source amounts to, and takes one byte, end mark or failure at a
time. The main statement, `lines_refine_splitter`, says that the two give the same items on every
source, so that the items depend on the source's events only.

## What carries the proof

* A chunk without a terminator only adds to the pending bytes (`items_text`), and the first
  terminator behind such bytes ends the line (`items_terminated`). These two are all that a search
  does with a chunk once a swallowed line feed is out of the way (`items_skip`).
* A search therefore stands for the steps of the splitter up to the next item
  (`items_eq_conclude`). The one fact about states that it needs is that a carriage return is
  remembered only while no byte is pending: an end mark that yields a line must not remember one.
* Draining a reader is then an induction on what is left to read (`drainFrom_items`).
-/

namespace PersonRelations

/-- The state of splitting between two events. -/
structure ByteSplitter where
  /-- The number of lines given so far. -/
  linesRead : Nat := 0
  /-- The bytes of the line under way. -/
  pending : List UInt8 := []
  /-- Whether the byte before was a carriage return that ended a line. -/
  afterReturn : Bool := false
  deriving DecidableEq, Repr

namespace ByteSplitter

/-- Gives the pending bytes as a line. Without a next state the splitting is over: the bytes were
not UTF-8. -/
def emit (a : ByteSplitter) (afterReturn : Bool) : Option LineItem × Option ByteSplitter :=
  match Text.Utf8.decode a.pending.toByteArray with
  | .ok line => (some (.ok line), some ⟨a.linesRead + 1, [], afterReturn⟩)
  | .error f => (some (.error (.inputRead (a.linesRead + 1) (.utf8 f))), none)

/-- Takes one event. A line feed directly behind a carriage return that ended a line belongs to
it; an end mark with no byte pending ends the splitting. -/
def step (a : ByteSplitter) : Source.Event → Option LineItem × Option ByteSplitter
  | .byte b =>
    if a.afterReturn && b == lineFeed then (none, some { a with afterReturn := false })
    else if isTerminator b then a.emit (b == carriageReturn)
    else (none, some ⟨a.linesRead, a.pending ++ [b], false⟩)
  | .endMark => if a.pending.isEmpty then (none, none) else a.emit false
  | .failure f => (some (.error (.inputRead (a.linesRead + 1) f)), none)

/-- The items that a sequence of events gives. Behind the last event there are end marks without
end, of which the first may give an item and the second gives none. -/
def items (a : ByteSplitter) : List Source.Event → List LineItem
  | [] => (a.step .endMark).1.toList
  | e :: es =>
    match a.step e with
    | (item?, none) => item?.toList
    | (item?, some a') => item?.toList ++ a'.items es

/-- What a step gives, and what the events behind it give. -/
def resume (next : Option LineItem × Option ByteSplitter) (es : List Source.Event) :
    List LineItem :=
  next.1.toList ++ (next.2.map fun a ↦ a.items es).getD []

theorem items_cons (a : ByteSplitter) (e : Source.Event) (es : List Source.Event) :
    a.items (e :: es) = resume (a.step e) es := by
  rw [items, resume]
  rcases a.step e with ⟨item?, _ | a'⟩ <;> simp

/-- The end of the events is an end mark with no event behind it: a line given there leaves no
byte pending, so that the next end mark gives nothing. -/
theorem items_nil (a : ByteSplitter) : a.items [] = resume (a.step .endMark) [] := by
  rw [items, resume, step]
  split
  · rfl
  · rw [emit]
    cases Text.Utf8.decode a.pending.toByteArray with
    | ok line => rfl
    | error f => rfl

/-! ### Steps over the bytes of a chunk -/

/-- **Bytes that end no line** are added to the pending ones. -/
theorem items_text (n : Nat) (p text : List UInt8) (es : List Source.Event)
    (htext : ∀ b ∈ text, isTerminator b = false) :
    items ⟨n, p, false⟩ (text.map .byte ++ es) = items ⟨n, p ++ text, false⟩ es := by
  induction text generalizing p with
  | nil => simp
  | cons b bs ih =>
    have hb : isTerminator b = false := htext b List.mem_cons_self
    have hbs : ∀ c ∈ bs, isTerminator c = false := fun c hc ↦ htext c (List.mem_cons_of_mem b hc)
    have hstep : step ⟨n, p, false⟩ (.byte b) = (none, some ⟨n, p ++ [b], false⟩) := by
      simp [step, hb]
    rw [List.map_cons, List.cons_append, items_cons, hstep]
    show items ⟨n, p ++ [b], false⟩ (bs.map .byte ++ es) = _
    rw [ih (p ++ [b]) hbs, List.append_assoc, List.singleton_append]

/-- **The first terminator** ends the line. -/
theorem items_terminated (n : Nat) (p text : List UInt8) (t : UInt8) (es : List Source.Event)
    (htext : ∀ b ∈ text, isTerminator b = false) (ht : isTerminator t = true) :
    items ⟨n, p, false⟩ (text.map .byte ++ .byte t :: es) =
      resume (emit ⟨n, p ++ text, false⟩ (t == carriageReturn)) es := by
  rw [items_text n p text _ htext, items_cons]
  simp [step, ht]

/-- What a line feed behind a carriage return leaves of a chunk is read as if nothing had come
before it. -/
theorem items_skip (n : Nat) (p : List UInt8) (afterReturn : Bool) (b : UInt8)
    (bs : List UInt8) (es : List Source.Event) :
    items ⟨n, p, afterReturn⟩ ((b :: bs).map .byte ++ es) =
      items ⟨n, p, false⟩
        ((if afterReturn && b == lineFeed then bs else b :: bs).map .byte ++ es) := by
  rw [List.map_cons, List.cons_append, items_cons]
  by_cases h : (afterReturn && b == lineFeed) = true
  · rw [if_pos h]
    simp [step, h, resume]
  · rw [if_neg h, List.map_cons, List.cons_append, items_cons]
    simp [step, h, emit]

/-- A carriage return that is remembered matters only if a line feed comes next. -/
theorem items_of_head?_ne (n : Nat) (p : List UInt8) {afterReturn : Bool} {bytes : List UInt8}
    (h : afterReturn = true → bytes.head? ≠ some lineFeed) :
    items ⟨n, p, afterReturn⟩ (bytes.map .byte) = items ⟨n, p, false⟩ (bytes.map .byte) := by
  cases bytes with
  | nil => rfl
  | cons b bs =>
    have hfeed : ¬(afterReturn && b == lineFeed) = true := by simpa using h
    have hskip := items_skip n p afterReturn b bs []
    rwa [if_neg hfeed, List.append_nil] at hskip

end ByteSplitter

/-! ### A search is a run of steps -/

theorem Source.events_cons_chunk {bytes : List UInt8} (h : bytes ≠ []) (s : Source) :
    Source.events (.chunk bytes :: s) = bytes.map .byte ++ s.events := by
  obtain ⟨b, bs, rfl⟩ := List.exists_cons_of_ne_nil h
  simp [Source.events]

/-- An emptied chunk is dropped, so what is left of a chunk stands for its bytes. -/
theorem Source.events_rest (rest : List UInt8) (s : Source) :
    Source.events (if rest.isEmpty then s else .chunk rest :: s) =
      rest.map .byte ++ s.events := by
  by_cases h : rest = []
  · simp [h]
  · rw [if_neg (by simpa using h), Source.events_cons_chunk h]

namespace LineReader

/-- What a reader makes of the outcome of a search. -/
def conclude (r : LineReader) : LineSearch × Bool × Source → Option LineItem × LineReader
  | (.line bytes, afterReturn, rest) => r.deliver bytes afterReturn rest
  | (.ended bytes, afterReturn, rest) =>
    if bytes.isEmpty then (none, ⟨rest, r.linesRead, afterReturn, true⟩)
    else r.deliver bytes afterReturn rest
  | (.failed f, afterReturn, rest) => r.fail f afterReturn rest

theorem next_of_finished {r : LineReader} (h : r.finished = true) : r.next = (none, r) := by
  rw [next, if_pos h]

theorem next_of_not_finished {r : LineReader} (h : r.finished = false) :
    r.next = r.conclude (LineSearch.run r.afterReturn ByteArray.empty r.source) := by
  rw [next, if_neg (by simp [h])]
  rfl

/-- The items that a reader has yet to give, by the splitter. -/
def view (r : LineReader) : List LineItem :=
  if r.finished then [] else ByteSplitter.items ⟨r.linesRead, [], r.afterReturn⟩ r.source.events

/-- A line is given by the reader and by the splitter alike. -/
theorem resume_emit (r : LineReader) (p : List UInt8) (a b : Bool) (rest : Source) :
    ByteSplitter.resume (ByteSplitter.emit ⟨r.linesRead, p, a⟩ b) rest.events =
      (r.deliver p.toByteArray b rest).1.toList ++ (r.deliver p.toByteArray b rest).2.view := by
  rw [ByteSplitter.emit, deliver]
  cases Text.Utf8.decode p.toByteArray with
  | ok line => rfl
  | error f => rfl

/-- An end mark means the same to both. That a carriage return is remembered only while no byte is
pending is used here: where the end mark gives a line, there is none to remember. -/
theorem resume_endMark (r : LineReader) (afterReturn : Bool) (p : List UInt8) (rest : Source)
    (hp : afterReturn = true → p = []) :
    ByteSplitter.resume (ByteSplitter.step ⟨r.linesRead, p, afterReturn⟩ .endMark) rest.events =
      (r.conclude (.ended p.toByteArray, afterReturn, rest)).1.toList ++
        (r.conclude (.ended p.toByteArray, afterReturn, rest)).2.view := by
  cases p with
  | nil => rfl
  | cons b bs =>
    have ha : afterReturn = false := by simpa using hp
    have hne : ¬(b :: bs).toByteArray.isEmpty = true := by
      simp [ByteArray.isEmpty, List.size_toByteArray]
    rw [conclude, if_neg hne, ha]
    exact resume_emit r (b :: bs) false false rest

/-- **One search** is the splitter's steps up to the next item. -/
theorem items_eq_conclude (r : LineReader) (afterReturn : Bool) (p : List UInt8) (s : Source)
    (hp : afterReturn = true → p = []) :
    ByteSplitter.items ⟨r.linesRead, p, afterReturn⟩ s.events =
      (r.conclude (LineSearch.run afterReturn p.toByteArray s)).1.toList ++
        (r.conclude (LineSearch.run afterReturn p.toByteArray s)).2.view := by
  induction s generalizing afterReturn p with
  | nil =>
    rw [LineSearch.run]
    exact (ByteSplitter.items_nil _).trans (resume_endMark r afterReturn p [] hp)
  | cons fill s ih =>
    match fill with
    | .interrupted =>
      rw [LineSearch.run]
      exact ih afterReturn p hp
    | .failure f =>
      rw [LineSearch.run]
      rfl
    | .chunk [] =>
      rw [LineSearch.run]
      exact (ByteSplitter.items_cons _ _ _).trans (resume_endMark r afterReturn p s hp)
    | .chunk (b :: bs) =>
      rw [Source.events_cons_chunk (List.cons_ne_nil b bs), ByteSplitter.items_skip, LineSearch.run]
      -- from here on the chunk is `bytes`, cut at its first terminator
      generalize (if afterReturn && b == lineFeed then bs else b :: bs) = bytes
      have htext : ∀ c ∈ bytes.takeWhile fun c ↦ !isTerminator c, isTerminator c = false := by
        intro c hc
        simpa using List.all_eq_true.1 List.all_takeWhile c hc
      have hcut := List.takeWhile_append_dropWhile (p := fun c ↦ !isTerminator c) (l := bytes)
      split
      · -- no terminator: the search goes on in the next fill, with the chunk pending
        rename_i hrest
        rw [hrest, List.append_nil] at hcut
        rw [hcut] at htext ⊢
        rw [ByteSplitter.items_text _ _ _ _ htext, ← List.toByteArray_append]
        exact ih false (p ++ bytes) (by simp)
      · -- the line ends at `t`, and what is left of the chunk stays in the source
        rename_i t rest hrest
        have ht : isTerminator t = true := by
          have := List.head_dropWhile_not (fun c ↦ !isTerminator c) (l := bytes) (by simp [hrest])
          simpa [hrest] using this
        rw [hrest] at hcut
        rw [← List.toByteArray_append, conclude, ← resume_emit r _ false, Source.events_rest]
        conv => lhs; rw [← hcut]
        rw [List.map_append, List.map_cons, List.append_assoc, List.cons_append,
          ByteSplitter.items_terminated _ _ _ _ _ htext ht]

/-! ### A reader is drained item by item -/

/-- **One call** gives the first of the items that are left, if there is one. -/
theorem view_eq_next (r : LineReader) : r.view = r.next.1.toList ++ r.next.2.view := by
  cases hr : r.finished with
  | true =>
    rw [next_of_finished hr]
    rfl
  | false =>
    rw [next_of_not_finished hr, view, if_neg (by simp [hr])]
    exact items_eq_conclude r r.afterReturn [] r.source fun _ ↦ rfl

/-- A reader that gives no item is finished. -/
theorem view_of_next_eq_none {r r' : LineReader} (h : r.next = (none, r')) : r'.view = [] := by
  cases hr : r.finished with
  | true =>
    rw [next_of_finished hr] at h
    cases h
    rw [view, if_pos hr]
  | false =>
    rw [next_of_not_finished hr] at h
    rcases hrun : LineSearch.run r.afterReturn ByteArray.empty r.source with
      ⟨bytes | bytes | f, a, rest⟩ <;> rw [hrun, conclude] at h
    · rw [deliver] at h
      split at h <;> cases h
    · split at h
      · cases h
        rfl
      · rw [deliver] at h
        split at h <;> cases h
    · cases h

/-- **Draining** a reader adds all items that are left to those already given. -/
theorem drainFrom_items (items : Array LineItem) (r : LineReader) :
    (drainFrom items r).1.toList = items.toList ++ r.view := by
  fun_induction drainFrom items r with
  | case1 items r r' h =>
    rw [view_eq_next, h]
    simp [view_of_next_eq_none h]
  | case2 items r item r' h ih =>
    rw [ih, view_eq_next r, h]
    simp

end LineReader

/-- The lines of a source are the splitter's items over its events. -/
theorem Source.lines_eq_items (s : Source) : s.lines = ByteSplitter.items {} s.events := by
  show (LineReader.drainFrom #[] ⟨s, 0, false, false⟩).1.toList = _
  rw [LineReader.drainFrom_items]
  rfl

/-- **The reader refines the splitter.** On every source the items are those that the splitter
gives over the source's events. Hence two sources that amount to the same events, whatever their
chunks and wherever they were interrupted, have the same items. -/
theorem lines_refine_splitter (s t : Source) :
    s.lines = ByteSplitter.items {} s.events ∧ (s.events = t.events → s.lines = t.lines) := by
  refine ⟨s.lines_eq_items, fun h ↦ ?_⟩
  rw [s.lines_eq_items, t.lines_eq_items, h]

/-- A carriage return and its line feed in one chunk, and the same bytes one by one with an
interruption between the two. -/
theorem lines_refine_splitter_split_pair :
    Source.events [.chunk [0x61, 0x0D, 0x0A, 0x62]] =
        Source.events
          [.chunk [0x61], .chunk [0x0D], .interrupted, .chunk [0x0A], .chunk [0x62]] ∧
      Source.lines [.chunk [0x61, 0x0D, 0x0A, 0x62]] =
        Source.lines
          [.chunk [0x61], .chunk [0x0D], .interrupted, .chunk [0x0A], .chunk [0x62]] :=
  ⟨rfl, (lines_refine_splitter [.chunk [0x61, 0x0D, 0x0A, 0x62]]
    [.chunk [0x61], .chunk [0x0D], .interrupted, .chunk [0x0A], .chunk [0x62]]).2 rfl⟩

end PersonRelations
