/-!
# Reading bits

Compressed data are read bit by bit, from the low end of each byte. A `BitStream` is the bits to
come and the number of those of the file that came before. A `BitReader` takes bits off the front
of a stream and either gives a value or stops: because the bits ran out or because they break the
rules of the format. Where it stops, it says how far it came.

The file comes in pieces of `pieceSize` bytes, and `BitStream.piece` says in which of them the
reading is. `BitReader.Shrinks` says that a reader never puts bits back, which is what makes the
loops over a stream end.
-/

namespace PersonRelations.Gzip

/-- The bits of the bytes, each byte from its low end. -/
def bitsOf (bytes : List UInt8) : List Bool :=
  bytes.flatMap fun b ↦ (List.range 8).map fun i ↦ b.toNat.testBit i

/-- The number of bytes in a piece of the file; the last piece may have fewer. -/
def pieceSize : Nat := 32768

/-- The bits of a file from some place on. -/
structure BitStream where
  /-- The bits to come. -/
  bits : List Bool
  /-- How many bits of the file came before. -/
  position : Nat
  deriving DecidableEq, Repr

namespace BitStream

/-- The bits of the bytes, before which `offset` bytes of the file came. -/
def ofBytes (offset : Nat) (bytes : List UInt8) : BitStream :=
  ⟨bitsOf bytes, 8 * offset⟩

/-- The number of the piece that the last bit before the stream belongs to. -/
def piece (s : BitStream) : Nat :=
  (s.position - 1) / (8 * pieceSize)

/-- How many bytes of the file came before or were begun. -/
def bytesBegun (s : BitStream) : Nat :=
  (s.position + 7) / 8

/-- Whether no whole byte of the piece at hand is left. -/
def isPieceUsedUp (s : BitStream) : Bool :=
  s.bytesBegun % pieceSize == 0 || (s.bits.drop 7).isEmpty

end BitStream

/-- Why a reader of bits stops without a value. -/
inductive Stop where
  /-- The bits ran out. -/
  | short
  /-- The bits break the rules. -/
  | corrupt
  deriving DecidableEq, Repr

/-- A reader of bits: gives a value or stops, with the stream behind the bits it read. -/
abbrev BitReader (α : Type) := EStateM Stop BitStream α

namespace BitReader

variable {α β : Type}

/-- Stops because the rules are broken. -/
def corrupt : BitReader α :=
  fun s ↦ .error .corrupt s

/-- The next bit. -/
def bit : BitReader Bool
  | ⟨[], position⟩ => .error .short ⟨[], position⟩
  | ⟨b :: bits, position⟩ => .ok b ⟨bits, position + 1⟩

/-- A number of `n` bits, the low end first. -/
def number : Nat → BitReader Nat
  | 0 => pure 0
  | n + 1 => do
    let b ← bit
    let v ← number n
    pure (b.toNat + 2 * v)

/-- As many numbers of `n` bits as asked for. -/
def numbers (n : Nat) : Nat → BitReader (List Nat)
  | 0 => pure []
  | count + 1 => do
    let v ← number n
    let vs ← numbers n count
    pure (v :: vs)

/-- Skips to the next byte. -/
def align : BitReader Unit := fun s ↦
  let skipped := 8 * s.bytesBegun - s.position
  .ok () ⟨s.bits.drop skipped, s.position + skipped⟩

/-- A reader that succeeds leaves no more bits than it found. -/
def Shrinks (r : BitReader α) : Prop :=
  ∀ ⦃s a t⦄, r s = .ok a t → t.bits.length ≤ s.bits.length

theorem shrinks_pure (a : α) : Shrinks (pure a : BitReader α) := by
  intro s b t h
  cases h
  exact Nat.le_refl _

theorem shrinks_corrupt : Shrinks (corrupt : BitReader α) := by
  intro s b t h
  cases h

/-- A sequence that succeeds is two successes. -/
theorem bind_eq_ok {r : BitReader α} {f : α → BitReader β} {s t : BitStream} {b : β}
    (h : (r >>= f) s = .ok b t) : ∃ a mid, r s = .ok a mid ∧ f a mid = .ok b t := by
  simp only [Bind.bind, EStateM.bind] at h
  split at h
  · exact ⟨_, _, ‹_›, h⟩
  · cases h

theorem Shrinks.bind {r : BitReader α} {f : α → BitReader β} (hr : Shrinks r)
    (hf : ∀ a, Shrinks (f a)) : Shrinks (r >>= f) := by
  intro s b t h
  obtain ⟨a, mid, h₁, h₂⟩ := bind_eq_ok h
  exact Nat.le_trans (hf a h₂) (hr h₁)

theorem shrinks_ite {c : Prop} [Decidable c] {r s : BitReader α} (hr : Shrinks r)
    (hs : Shrinks s) : Shrinks (if c then r else s) := by
  split
  · exact hr
  · exact hs

theorem length_lt_of_bit {s t : BitStream} {b : Bool} (h : bit s = .ok b t) :
    t.bits.length < s.bits.length := by
  obtain ⟨bits, position⟩ := s
  cases bits with
  | nil => cases h
  | cons c cs =>
    cases h
    simp

theorem shrinks_bit : Shrinks bit := fun _ _ _ h ↦ Nat.le_of_lt (length_lt_of_bit h)

theorem shrinks_number (n : Nat) : Shrinks (number n) := by
  induction n with
  | zero => exact shrinks_pure _
  | succ n ih => exact shrinks_bit.bind fun _ ↦ ih.bind fun _ ↦ shrinks_pure _

theorem shrinks_numbers (n count : Nat) : Shrinks (numbers n count) := by
  induction count with
  | zero => exact shrinks_pure _
  | succ count ih => exact (shrinks_number n).bind fun _ ↦ ih.bind fun _ ↦ shrinks_pure _

theorem shrinks_align : Shrinks align := by
  intro s a t h
  cases h
  simp

end BitReader

end PersonRelations.Gzip
