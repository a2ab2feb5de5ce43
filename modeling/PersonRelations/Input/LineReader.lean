import PersonRelations.Error

/-!
# Byte sources and their lines

A source of bytes answers each request for data with a `Fill`; it is the list of the answers it
will give, after which it is at its end for good. An answer of no bytes is an end mark: the
source is at its end for this request, but may still have more. `Source.events` forgets how the
bytes are cut into chunks: it is the sequence of single bytes, end marks and failures that a source
amounts to.

A `LineReader` takes a source apart into lines. A line ends at a line feed, a carriage return or
the two together, and is given without its terminator; the carriage return and the line feed of a
pair may come in different chunks. An end mark ends a line that has bytes; with no byte pending it
ends the reading. A failure of the source or a line that is not UTF-8 is reported with the number
of the line under way, and nothing follows it.

`LineReader.next` gives one item, `LineReader.items` all of them. Every item uses up part of the
source (`LineReader.remaining_next_lt`), which is why collecting them ends.
-/

namespace PersonRelations

/-! ### Sources -/

/-- What a source gives when asked for data. -/
inductive Fill where
  /-- Some bytes, or an end mark if there are none. -/
  | chunk (bytes : List UInt8)
  /-- Nothing yet: the request is to be made again. -/
  | interrupted
  /-- The source has failed. -/
  | failure (fault : Fault)
  deriving DecidableEq, Repr

/-- The answers that a source has yet to give. -/
abbrev Source := List Fill

namespace Source

/-- A source that gives the bytes in one piece. -/
def ofBytes (bytes : List UInt8) : Source :=
  if bytes.isEmpty then [] else [.chunk bytes]

/-- The number of answers and bytes left, which every request that is answered reduces. -/
def size : Source → Nat
  | [] => 0
  | .chunk bytes :: s => bytes.length + 1 + size s
  | _ :: s => size s + 1

/-- What a source amounts to, whatever its chunks. -/
inductive Event where
  | byte (b : UInt8)
  | endMark
  | failure (fault : Fault)
  deriving DecidableEq, Repr

/-- The bytes, end marks and failures of the source, in order. -/
def events (s : Source) : List Event :=
  s.flatMap fun
    | .chunk [] => [.endMark]
    | .chunk bytes => bytes.map .byte
    | .interrupted => []
    | .failure f => [.failure f]

end Source

/-! ### The end of a line -/

/-- The line feed byte. -/
def lineFeed : UInt8 := 0x0A

/-- The carriage return byte. -/
def carriageReturn : UInt8 := 0x0D

/-- Whether the byte ends a line. -/
def isTerminator (b : UInt8) : Bool :=
  b == lineFeed || b == carriageReturn

/-- What the search for the end of a line comes to. -/
inductive LineSearch where
  /-- The bytes of a line whose terminator was found. -/
  | line (bytes : ByteArray)
  /-- The bytes before an end mark. -/
  | ended (bytes : ByteArray)
  /-- The source failed. -/
  | failed (fault : Fault)

namespace LineSearch

/-- Searches a source for the end of the line of which `pending` is known. `afterReturn` says that
the byte before was a carriage return that ended a line, so that a line feed now belongs to it.
Gives also the value of `afterReturn` for the next search, and the rest of the source. -/
def run (afterReturn : Bool) (pending : ByteArray) : Source → LineSearch × Bool × Source
  | [] => (.ended pending, afterReturn, [])
  | .interrupted :: s => run afterReturn pending s
  | .failure f :: s => (.failed f, afterReturn, s)
  | .chunk [] :: s => (.ended pending, afterReturn, s)
  | .chunk (b :: bs) :: s =>
    let bytes := if afterReturn && b == lineFeed then bs else b :: bs
    let text := bytes.takeWhile fun c ↦ !isTerminator c
    match bytes.dropWhile fun c ↦ !isTerminator c with
    | [] => run false (pending ++ text.toByteArray) s
    | t :: rest =>
      (.line (pending ++ text.toByteArray), t == carriageReturn,
        if rest.isEmpty then s else .chunk rest :: s)

end LineSearch

/-- A line, or the error that ends the reading. -/
abbrev LineItem := Except Error String

/-- The state of reading a source line by line. -/
structure LineReader where
  /-- What has not been read. -/
  source : Source
  /-- The number of lines given so far. It has no bound here; a counter of 64 bits holds it, and the
  number of the line under way, as long as fewer than 2^64 - 1 lines are given. -/
  linesRead : Nat := 0
  /-- Whether the last line ended in a carriage return. -/
  afterReturn : Bool := false
  /-- Whether the reading is over. -/
  finished : Bool := false
  deriving DecidableEq

namespace LineReader

/-- The reader, over for good, with an error at the line under way. -/
def fail (r : LineReader) (fault : Fault) (afterReturn : Bool) (rest : Source) :
    Option LineItem × LineReader :=
  (some (.error (.inputRead (r.linesRead + 1) fault)), ⟨rest, r.linesRead, afterReturn, true⟩)

/-- Gives the bytes of a line as text. -/
def deliver (r : LineReader) (bytes : ByteArray) (afterReturn : Bool) (rest : Source) :
    Option LineItem × LineReader :=
  match Text.Utf8.decode bytes with
  | .ok line => (some (.ok line), ⟨rest, r.linesRead + 1, afterReturn, false⟩)
  | .error f => r.fail (.utf8 f) afterReturn rest

/-- The next item, and the reader after it. -/
def next (r : LineReader) : Option LineItem × LineReader :=
  if r.finished then (none, r)
  else
    match LineSearch.run r.afterReturn ByteArray.empty r.source with
    | (.line bytes, afterReturn, rest) => r.deliver bytes afterReturn rest
    | (.ended bytes, afterReturn, rest) =>
      if bytes.isEmpty then (none, ⟨rest, r.linesRead, afterReturn, true⟩)
      else r.deliver bytes afterReturn rest
    | (.failed f, afterReturn, rest) => r.fail f afterReturn rest

/-- What is left for the reader to do. -/
def remaining (r : LineReader) : Nat :=
  if r.finished then 0 else r.source.size + 1

end LineReader

/-! ### Progress -/

theorem Source.size_cons_chunk (bytes : List UInt8) (s : Source) :
    Source.size (.chunk bytes :: s) = bytes.length + 1 + Source.size s := by
  simp [Source.size]

theorem Source.size_lt_cons (f : Fill) (s : Source) : Source.size s < Source.size (f :: s) := by
  cases f <;> simp [Source.size]

/-- Behind a terminator in its first chunk, less of the source is left. -/
theorem Source.size_behind_terminator_lt {bytes rest : List UInt8} {b t : UInt8}
    {bs : List UInt8} {s : Source} (hbytes : bytes.length ≤ (b :: bs).length)
    (h : (bytes.dropWhile fun c ↦ !isTerminator c) = t :: rest) :
    Source.size (if rest.isEmpty then s else .chunk rest :: s) <
      Source.size (.chunk (b :: bs) :: s) := by
  have hlen : (t :: rest).length ≤ bytes.length := by
    rw [← h]
    exact (List.dropWhile_sublist _).length_le
  split
  · exact Source.size_lt_cons _ s
  · simp only [Source.size_cons_chunk]
    simp only [List.length_cons] at hlen hbytes ⊢
    omega

theorem LineSearch.size_run_le (afterReturn : Bool) (pending : ByteArray) (s : Source) :
    (run afterReturn pending s).2.2.size ≤ s.size := by
  fun_induction run afterReturn pending s with
  | case1 => exact Nat.le_refl _
  | case2 a p s ih => exact Nat.le_of_lt (Nat.lt_of_le_of_lt ih (Source.size_lt_cons _ s))
  | case3 a p f s => exact Nat.le_of_lt (Source.size_lt_cons _ s)
  | case4 a p s => exact Nat.le_of_lt (Source.size_lt_cons _ s)
  | case5 a p b bs s bytes text h ih =>
    exact Nat.le_of_lt (Nat.lt_of_le_of_lt ih (Source.size_lt_cons _ s))
  | case6 a p b bs s bytes text t rest h =>
    exact Nat.le_of_lt (Source.size_behind_terminator_lt (by simp only [bytes]; split <;> simp) h)

/-- A search uses up part of the source, unless it meets the end at once. -/
theorem LineSearch.size_run_lt_or (afterReturn : Bool) (pending : ByteArray) (s : Source) :
    (run afterReturn pending s).2.2.size < s.size ∨
      (run afterReturn pending s).1 = .ended pending := by
  fun_induction run afterReturn pending s with
  | case1 => exact Or.inr rfl
  | case2 a p s ih =>
    have := Source.size_lt_cons .interrupted s
    exact ih.imp (fun h ↦ by omega) id
  | case3 a p f s => exact Or.inl (Source.size_lt_cons _ s)
  | case4 a p s => exact Or.inr rfl
  | case5 a p b bs s bytes text h ih =>
    have hs := Source.size_lt_cons (.chunk (b :: bs)) s
    have hle := size_run_le false (p ++ text.toByteArray) s
    exact Or.inl (by omega)
  | case6 a p b bs s bytes text t rest h =>
    exact Or.inl (Source.size_behind_terminator_lt (by simp only [bytes]; split <;> simp) h)

namespace LineReader

theorem remaining_fail (r : LineReader) (f : Fault) (a : Bool) (rest : Source) :
    (r.fail f a rest).2.remaining = 0 := rfl

theorem remaining_deliver_le (r : LineReader) (bytes : ByteArray) (a : Bool) (rest : Source) :
    (r.deliver bytes a rest).2.remaining ≤ rest.size + 1 := by
  unfold deliver
  split
  · simp [remaining]
  · simp [remaining_fail]

/-- An item is paid for with part of the source, or is the last. -/
theorem remaining_next_lt {r r' : LineReader} {item : LineItem} (h : r.next = (some item, r')) :
    r'.remaining < r.remaining := by
  have hr : ¬r.finished = true := fun hf ↦ by simp [next, hf] at h
  have hremaining : r.remaining = r.source.size + 1 := if_neg hr
  have hdeliver (bytes : ByteArray) (a : Bool) (rest : Source)
      (hless : rest.size < r.source.size) : (r.deliver bytes a rest).2.remaining < r.remaining := by
    have := remaining_deliver_le r bytes a rest
    omega
  have hsize := LineSearch.size_run_lt_or r.afterReturn ByteArray.empty r.source
  rw [next, if_neg hr] at h
  rcases hrun : LineSearch.run r.afterReturn ByteArray.empty r.source with
    ⟨bytes | bytes | fault, a, rest⟩
  all_goals rw [hrun] at h hsize
  · -- A line was found, so the search did not stop at an end mark.
    have hless : rest.size < r.source.size := hsize.resolve_right nofun
    have hr' : (r.deliver bytes a rest).2 = r' := congrArg Prod.snd h
    rw [← hr']
    exact hdeliver bytes a rest hless
  · -- The reading ends here unless bytes came before the end mark.
    dsimp only at h
    by_cases hempty : bytes.isEmpty = true
    · rw [if_pos hempty] at h
      cases h
    · rw [if_neg hempty] at h
      have hless : rest.size < r.source.size :=
        hsize.resolve_right fun heq ↦ hempty (by cases heq; rfl)
      have hr' : (r.deliver bytes a rest).2 = r' := congrArg Prod.snd h
      rw [← hr']
      exact hdeliver bytes a rest hless
  · have hr' : (r.fail fault a rest).2 = r' := congrArg Prod.snd h
    rw [← hr', remaining_fail, hremaining]
    exact Nat.succ_pos _

/-- Reads on to the end; `items` are those already given. -/
def drainFrom (items : Array LineItem) (r : LineReader) : Array LineItem × LineReader :=
  match _h : r.next with
  | (none, r') => (items, r')
  | (some item, r') => drainFrom (items.push item) r'
termination_by r.remaining
decreasing_by exact remaining_next_lt _h

/-- All items of the reader, and the reader after them. -/
def drain (r : LineReader) : List LineItem × LineReader :=
  let (items, r) := drainFrom #[] r
  (items.toList, r)

/-- All items of the reader. -/
def items (r : LineReader) : List LineItem :=
  r.drain.1

end LineReader

/-- The lines of a source, and the error that ends them if there is one. -/
def Source.lines (s : Source) : List LineItem :=
  LineReader.items ⟨s, 0, false, false⟩

end PersonRelations
