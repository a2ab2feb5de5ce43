import PersonRelations.Gzip.Bits

/-!
# Codes of variable length

A code gives symbols bit strings, its words, none of which begins another. It is kept as a binary
tree. The words of a canonical code follow from their lengths: shorter words come before longer
ones, and words of one length are consecutive numbers in the order of the symbols
(`Code.ofLengths`).
-/

namespace PersonRelations.Gzip

/-- A code as a tree: a path from the root to a leaf is a word. -/
inductive Code where
  /-- No word begins like this. -/
  | gap
  /-- The end of the symbol's word. -/
  | leaf (symbol : Nat)
  /-- The words that go on with 0, and those with 1. -/
  | fork (zero one : Code)

namespace Code

/-- The code with one more word. -/
def insert (symbol : Nat) : List Bool → Code → Code
  | [], _ => leaf symbol
  | false :: word, fork z o => fork (insert symbol word z) o
  | true :: word, fork z o => fork z (insert symbol word o)
  | false :: word, _ => fork (insert symbol word gap) gap
  | true :: word, _ => fork gap (insert symbol word gap)

/-- The number as a word of the given length, the high end first. -/
def word (length n : Nat) : List Bool :=
  (List.range length).reverse.map fun i ↦ n.testBit i

/-- The longest word. -/
def maxLength : Nat := 15

/-- Gives words of one length to symbols, in order, from the number `next` on. -/
def insertAll (length : Nat) : List Nat → Nat → Code → Code
  | [], _, c => c
  | s :: symbols, next, c =>
    insertAll length symbols (next + 1) (c.insert s (word length next))

/-- The symbols, counted from 0, whose word has the given length. -/
def symbolsOf (lengths : List Nat) (length : Nat) : List Nat :=
  (lengths.zipIdx.filter fun x ↦ x.1 == length).map Prod.snd

/-- The canonical code in which the word of symbol `s` has length `lengths[s]`; length 0 stands
for no word. -/
def ofLengths (lengths : List Nat) : Code :=
  ((List.range maxLength).foldl
    (fun (c, next) l ↦
      let symbols := symbolsOf lengths (l + 1)
      (insertAll (l + 1) symbols next c, 2 * (next + symbols.length)))
    (gap, 0)).1

/-- The number of words. -/
def used (lengths : List Nat) : Nat :=
  lengths.countP (0 < ·)

/-- The share of all strings of the greatest length that begin with a word, times their number. -/
def coverage (lengths : List Nat) : Nat :=
  lengths.foldr (fun l n ↦ (if l = 0 then 0 else 1 <<< (maxLength - l)) + n) 0

/-- Whether every bit string begins with exactly one word. -/
def isComplete (lengths : List Nat) : Bool :=
  coverage lengths == 1 <<< maxLength

/-- Whether the lengths make a code for the tokens of a block: a complete one, one of no words, or
one of a single word, which then has one bit. -/
def isUsable (lengths : List Nat) : Bool :=
  isComplete lengths || used lengths == 0 ||
    (used lengths == 1 && coverage lengths == 1 <<< (maxLength - 1))

/-- Follows the bits to a leaf. -/
def descend : Code → BitReader Nat
  | leaf s => pure s
  | gap => BitReader.corrupt
  | fork z o => do
    let b ← BitReader.bit
    if b then o.descend else z.descend

/-- Reads one word and gives its symbol. A bit that begins no word is read before it is refused. -/
def next (c : Code) : BitReader Nat := do
  let b ← BitReader.bit
  match c with
  | fork z o => if b then o.descend else z.descend
  | _ => BitReader.corrupt

theorem shrinks_descend (c : Code) : BitReader.Shrinks c.descend := by
  induction c with
  | gap => exact BitReader.shrinks_corrupt
  | leaf s => exact BitReader.shrinks_pure s
  | fork z o hz ho => exact BitReader.shrinks_bit.bind fun _ ↦ BitReader.shrinks_ite ho hz

/-- Reading a word takes at least one bit. -/
theorem length_lt_of_next {c : Code} {s t : BitStream} {symbol : Nat}
    (h : c.next s = .ok symbol t) : t.bits.length < s.bits.length := by
  obtain ⟨b, mid, h₁, h₂⟩ := BitReader.bind_eq_ok h
  refine Nat.lt_of_le_of_lt ?_ (BitReader.length_lt_of_bit h₁)
  split at h₂
  · exact BitReader.shrinks_ite (shrinks_descend _) (shrinks_descend _) h₂
  · cases h₂

theorem shrinks_next (c : Code) : BitReader.Shrinks c.next :=
  fun _ _ _ h ↦ Nat.le_of_lt (length_lt_of_next h)

end Code

end PersonRelations.Gzip
