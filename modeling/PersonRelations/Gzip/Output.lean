import PersonRelations.Gzip.Bits

/-!
# The output of deflate data

Data are decoded in rounds. What a round puts out is handed over when the round ends, so that
whoever asked for the output has it whatever comes later; what a round had put out when the data
turn out corrupt is lost. A round ends

* when it needs a bit beyond the piece of the file at hand (`Output.upTo`);
* at a full window, that is after a multiple of `windowSize` bytes of output, when one more byte
  is to be written and either the round has put out `roundSize` bytes or no whole byte of the
  piece at hand is left (`Output.push`).

The window also says what a copy reads that begins before the output: it is zero at first.
-/

namespace PersonRelations.Gzip

/-- The number of bytes of output that can be copied from. -/
def windowSize : Nat := 32768

/-- The number of bytes of output after which a round is over at the next full window. -/
def roundSize : Nat := 1048576

/-- The output so far. -/
structure Output where
  /-- The bytes put out. -/
  bytes : Array UInt8
  /-- How many of them have been handed over. -/
  handed : Nat
  /-- The number of the piece that was read last. -/
  piece : Nat

namespace Output

/-- No output, before the bits of the stream. -/
def start (s : BitStream) : Output :=
  ⟨#[], 0, s.piece⟩

/-- Ends a round. -/
def handOver (o : Output) : Output :=
  ⟨o.bytes, o.bytes.size, o.piece⟩

/-- The output when the bits before the stream have been read. -/
def upTo (s : BitStream) (o : Output) : Output :=
  if s.piece = o.piece then o else { o.handOver with piece := s.piece }

/-- Whether a round ends at a full window; `usedUp` says that no whole byte of the piece at hand
is left. -/
def isRoundOver (usedUp : Bool) (o : Output) : Bool :=
  o.bytes.size % windowSize == 0 && (usedUp || o.handed + roundSize ≤ o.bytes.size)

/-- The output with one more byte. -/
def push (usedUp : Bool) (b : UInt8) (o : Output) : Output :=
  let o := if o.isRoundOver usedUp then o.handOver else o
  { o with bytes := o.bytes.push b }

/-- The byte `distance` bytes before the next one. -/
def back (distance : Nat) (o : Output) : UInt8 :=
  if distance ≤ o.bytes.size then o.bytes[o.bytes.size - distance]?.getD 0 else 0

/-- The output with `length` bytes added, each the one `distance` bytes before it. -/
def copyBack (usedUp : Bool) (distance : Nat) : Nat → Output → Output
  | 0, o => o
  | n + 1, o => copyBack usedUp distance n (o.push usedUp (o.back distance))

/-- What has been handed over. -/
def given (o : Output) : Array UInt8 :=
  o.bytes.extract 0 o.handed

@[simp]
theorem bytes_push (usedUp : Bool) (b : UInt8) (o : Output) :
    (o.push usedUp b).bytes = o.bytes.push b := by
  simp only [push]
  split <;> rfl

end Output

end PersonRelations.Gzip
