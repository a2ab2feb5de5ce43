/-!
# UTF-8 with located faults

A line of a dump is bytes and has to be UTF-8. `decode` gives the text, or the first fault: where
the longest well-formed part ends and how many bytes from there on start a sequence that then
breaks off. The scanner is an automaton over single bytes; its state is what the sequence under
way still expects. `decodeLossy` is the same automaton with a replacement character in place of
each faulty sequence.
-/

namespace PersonRelations.Text.Utf8

/-- Why bytes are not UTF-8. -/
inductive Fault where
  /-- From `index` on, `length` bytes begin a sequence that the next byte, if any, cannot
  continue. -/
  | invalid (length index : Nat)
  /-- The bytes end inside a sequence that began at `index`. -/
  | incomplete (index : Nat)
  deriving DecidableEq, Repr

/-- Where the well-formed part before the fault ends. -/
def Fault.index : Fault → Nat
  | .invalid _ i | .incomplete i => i

/-- The text of a fault. -/
def Fault.message : Fault → String
  | .invalid n i => s!"invalid utf-8 sequence of {n} bytes from index {i}"
  | .incomplete i => s!"incomplete utf-8 byte sequence from index {i}"

/-- The bytes from `first` to `last`. -/
structure Range where
  first : UInt8
  last : UInt8
  deriving DecidableEq, Repr

/-- Whether the byte is in the range. -/
def Range.contains (r : Range) (b : UInt8) : Bool :=
  r.first ≤ b && b ≤ r.last

/-- What may follow in a sequence unless its first byte narrows it. -/
def continuation : Range := ⟨0x80, 0xBF⟩

/-- The ranges of the bytes that follow `b` when it begins a sequence; `none` when it cannot. The
narrowed ranges exclude overlong forms, surrogates and what is above U+10FFFF. -/
def followers (b : UInt8) : Option (List Range) :=
  if b < 0x80 then some []
  else if b < 0xC2 then none
  else if b < 0xE0 then some [continuation]
  else if b = 0xE0 then some [⟨0xA0, 0xBF⟩, continuation]
  else if b = 0xED then some [⟨0x80, 0x9F⟩, continuation]
  else if b < 0xF0 then some [continuation, continuation]
  else if b = 0xF0 then some [⟨0x90, 0xBF⟩, continuation, continuation]
  else if b < 0xF4 then some [continuation, continuation, continuation]
  else if b = 0xF4 then some [⟨0x80, 0x8F⟩, continuation, continuation]
  else none

/-- Scans for the first fault. A sequence is under way when `expected` is not empty; it began at
`index` and has `taken` bytes so far. -/
def scan (index taken : Nat) (expected : List Range) : List UInt8 → Option Fault
  | [] => if expected.isEmpty then none else some (.incomplete index)
  | b :: bytes =>
    match expected with
    | [] =>
      match followers b with
      | none => some (.invalid 1 index)
      | some [] => scan (index + 1) 0 [] bytes
      | some (r :: rs) => scan index 1 (r :: rs) bytes
    | [r] =>
      if r.contains b then scan (index + taken + 1) 0 [] bytes else some (.invalid taken index)
    | r :: rs =>
      if r.contains b then scan index (taken + 1) rs bytes else some (.invalid taken index)

/-- The first fault of the bytes, if they have one. -/
def fault? (bytes : List UInt8) : Option Fault :=
  scan 0 0 [] bytes

/-- The text that the bytes encode, or their first fault. -/
def decode (bytes : ByteArray) : Except Fault String :=
  if h : bytes.IsValidUTF8 then .ok (String.fromUTF8 bytes h)
  else .error ((fault? bytes.data.toList).getD (.incomplete 0))

/-- The character that stands for a faulty sequence. -/
def replacement : Char := '\uFFFD'

/-- The part of a sequence's first byte that belongs to the code point, given the number of bytes
that follow it. -/
def leadBits (b : UInt8) : Nat → Nat
  | 0 => b.toNat
  | 1 => b.toNat % 0x20
  | 2 => b.toNat % 0x10
  | _ => b.toNat % 0x08

/-- Decodes with replacements. `chars` is what has been decoded, in reverse, and `point` the code
point of the sequence under way as far as it goes. -/
def decodeLossyFrom (chars : List Char) (point : Nat) (expected : List Range) :
    List UInt8 → List Char
  | [] => (if expected.isEmpty then chars else replacement :: chars).reverse
  | b :: bytes =>
    match expected with
    | r :: rs =>
      if r.contains b then
        let point := point * 0x40 + b.toNat % 0x40
        if rs.isEmpty then decodeLossyFrom (Char.ofNat point :: chars) 0 [] bytes
        else decodeLossyFrom chars point rs bytes
      else
        begin (replacement :: chars) b bytes
    | [] => begin chars b bytes
where
  /-- Begins a sequence with the byte `b`. -/
  begin (chars : List Char) (b : UInt8) (bytes : List UInt8) : List Char :=
    match followers b with
    | none => decodeLossyFrom (replacement :: chars) 0 [] bytes
    | some [] => decodeLossyFrom (Char.ofNat b.toNat :: chars) 0 [] bytes
    | some rs => decodeLossyFrom chars (leadBits b rs.length) rs bytes

/-- The text of the bytes, each faulty sequence replaced by U+FFFD. -/
def decodeLossy (bytes : List UInt8) : String :=
  String.ofList (decodeLossyFrom [] 0 [] bytes)

/-- A text is determined by its bytes. -/
theorem toUTF8_toList_injective {s t : String}
    (h : s.toUTF8.data.toList = t.toUTF8.data.toList) : s = t :=
  String.toByteArray_inj.1 (ByteArray.ext (Array.toList_inj.1 h))

theorem decode_toUTF8 (s : String) : decode s.toUTF8 = .ok s := by
  simp [decode, s.isValidUTF8, String.fromUTF8]

/-- Decoding succeeds exactly on the bytes of a text. -/
theorem decode_eq_ok_iff {b : ByteArray} {s : String} : decode b = .ok s ↔ b = s.toUTF8 := by
  constructor
  · intro h
    unfold decode at h
    split at h
    · cases h
      rfl
    · cases h
  · rintro rfl
    exact decode_toUTF8 s

end PersonRelations.Text.Utf8
