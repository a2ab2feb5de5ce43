import PersonRelations.Error
import PersonRelations.Gzip.Inflate

/-!
# Gzip files

A gzip file is a sequence of members. A member is a header of ten bytes with optional fields
behind it, deflate data, and a trailer with the checksum and the length of what the data stand
for. `decodeMember` reads one member, `decodeFile` members up to the end of the file.

What was read before a fault is given as well; of corrupt deflate data, it is what had been handed
over by then.
-/

namespace PersonRelations.Gzip

/-- The number of the two bytes, the low end first. -/
def word16 (a b : UInt8) : Nat :=
  a.toNat + 256 * b.toNat

/-- The number of the four bytes, the low end first. -/
def word32 (a b c d : UInt8) : Nat :=
  word16 a b + 65536 * word16 c d

/-! ### Checksums

CRC-32: the remainder of the data as a polynomial over two elements, divided by a fixed polynomial
of degree 32. The bits are taken from the low end of each byte, and the register starts and ends
with all bits changed. -/

/-- The divisor, without its leading term, low end first. -/
def crcDivisor : UInt32 := 0xEDB88320

/-- Shifts the register by one bit. -/
def crcShift (r : UInt32) : UInt32 :=
  if r &&& 1 = 1 then (r >>> 1) ^^^ crcDivisor else r >>> 1

/-- Takes one byte into the register. -/
def crcByte (r : UInt32) (b : UInt8) : UInt32 :=
  crcShift (crcShift (crcShift (crcShift (crcShift (crcShift (crcShift (crcShift
    (r ^^^ b.toUInt32))))))))

/-- The checksum of the bytes. -/
def crc32 (bytes : List UInt8) : UInt32 :=
  bytes.foldl crcByte 0xFFFFFFFF ^^^ 0xFFFFFFFF

/-! ### Headers -/

/-- The flags of a header. -/
structure Flags where
  /-- A checksum of the header is given. -/
  checksum : Bool
  /-- A field of a given length is there. -/
  extra : Bool
  /-- A file name is there. -/
  name : Bool
  /-- A comment is there. -/
  comment : Bool
  deriving DecidableEq, Repr

/-- The flags in a byte, if no reserved one is set. -/
def Flags.ofByte? (b : UInt8) : Option Flags :=
  if b ≥ 0x20 then none
  else some ⟨b &&& 2 ≠ 0, b &&& 4 ≠ 0, b &&& 8 ≠ 0, b &&& 16 ≠ 0⟩

/-- Reads the ten bytes that every header has. -/
def fixedHeader : List UInt8 → Except Fault (Flags × List UInt8)
  | m0 :: m1 :: method :: flags :: _ :: _ :: _ :: _ :: _ :: _ :: rest =>
    if m0 = 0x1F ∧ m1 = 0x8B ∧ method = 8 then
      match Flags.ofByte? flags with
      | some f => .ok (f, rest)
      | none => .error .header
    else .error .header
  | _ => .error .unexpectedEnd

/-- Skips the field of a given length. -/
def skipExtra : List UInt8 → Except Fault (List UInt8)
  | a :: b :: rest =>
    if word16 a b ≤ rest.length then .ok (rest.drop (word16 a b)) else .error .unexpectedEnd
  | _ => .error .unexpectedEnd

/-- The greatest number of bytes in a text of the header. -/
def maxTextSize : Nat := 65535

/-- Skips a text that ends in a zero byte. -/
def skipText (bytes : List UInt8) : Except Fault (List UInt8) :=
  if maxTextSize < (bytes.takeWhile (· != 0)).length then .error .longText
  else
    match bytes.dropWhile (· != 0) with
    | [] => .error .unexpectedEnd
    | _ :: rest => .ok rest

/-- Compares the header's checksum, the low half of that of the bytes before it. -/
def skipChecksum (header : List UInt8) : List UInt8 → Except Fault (List UInt8)
  | a :: b :: rest =>
    if word16 a b = (crc32 header).toNat % 65536 then .ok rest else .error .checksum
  | _ => .error .unexpectedEnd

/-- Skips a field if it is there. -/
def skipIf (present : Bool) (skip : List UInt8 → Except Fault (List UInt8))
    (bytes : List UInt8) : Except Fault (List UInt8) :=
  if present then skip bytes else .ok bytes

/-- Reads a header and gives what is behind it. -/
def skipHeader (bytes : List UInt8) : Except Fault (List UInt8) := do
  let (flags, rest) ← fixedHeader bytes
  let rest ← skipIf flags.extra skipExtra rest
  let rest ← skipIf flags.name skipText rest
  let rest ← skipIf flags.comment skipText rest
  skipIf flags.checksum (skipChecksum (bytes.take (bytes.length - rest.length))) rest

/-! ### Members -/

/-- What reading a member comes to. -/
inductive Member where
  /-- What the member stands for, and the bytes behind it. -/
  | whole (payload : List UInt8) (rest : List UInt8)
  /-- What could be read, and why not the rest. -/
  | faulty (payload : List UInt8) (fault : Fault)
  deriving DecidableEq, Repr

/-- Compares the trailer with the payload before it. -/
def checkTrailer (payload : List UInt8) : List UInt8 → Member
  | a :: b :: c :: d :: e :: f :: g :: h :: rest =>
    if word32 a b c d = (crc32 payload).toNat ∧ word32 e f g h = payload.length % UInt32.size then
      .whole payload rest
    else .faulty payload .checksum
  | _ => .faulty payload .unexpectedEnd

/-- Reads the deflate data and the trailer of a member, before which `offset` bytes of the file
came. -/
def decodeBody (offset : Nat) (bytes : List UInt8) : Member :=
  match inflate (.ofBytes offset bytes) with
  | .complete out rest => checkTrailer out.bytes.toList (bytes.drop (rest.bytesBegun - offset))
  | .truncated out => .faulty out.toList .incompleteData
  | .corrupt given => .faulty given.toList .corruptData

/-- Reads one member, before which `offset` bytes of the file came. -/
def decodeMember (offset : Nat) (bytes : List UInt8) : Member :=
  match skipHeader bytes with
  | .error f => .faulty [] f
  | .ok rest => decodeBody (offset + (bytes.length - rest.length)) rest

theorem length_checkTrailer {payload p bytes rest : List UInt8}
    (h : checkTrailer payload bytes = .whole p rest) : rest.length < bytes.length := by
  unfold checkTrailer at h
  split at h
  · split at h
    · cases h
      simp only [List.length_cons]
      omega
    · cases h
  · cases h

/-- Whether a step of reading a header leaves no more bytes than it found. -/
def Skips (skip : List UInt8 → Except Fault (List UInt8)) : Prop :=
  ∀ ⦃bytes rest⦄, skip bytes = .ok rest → rest.length ≤ bytes.length

theorem skips_extra : Skips skipExtra := by
  intro bytes rest h
  unfold skipExtra at h
  split at h
  · split at h
    · cases h
      simp only [List.length_drop, List.length_cons]
      omega
    · cases h
  · cases h

theorem skips_text : Skips skipText := by
  intro bytes rest h
  unfold skipText at h
  split at h
  · cases h
  · split at h
    · cases h
    · rename_i b tail hd
      cases h
      have := (List.dropWhile_sublist (l := bytes) (· != 0)).length_le
      rw [hd, List.length_cons] at this
      omega

theorem skips_checksum (header : List UInt8) : Skips (skipChecksum header) := by
  intro bytes rest h
  unfold skipChecksum at h
  split at h
  · split at h
    · cases h
      simp only [List.length_cons]
      omega
    · cases h
  · cases h

theorem Skips.ifPresent {skip : List UInt8 → Except Fault (List UInt8)} (h : Skips skip)
    (present : Bool) : Skips (skipIf present skip) := by
  intro bytes rest hr
  unfold skipIf at hr
  split at hr
  · exact h hr
  · cases hr
    exact Nat.le_refl _

theorem length_fixedHeader_le {bytes rest : List UInt8} {flags : Flags}
    (h : fixedHeader bytes = .ok (flags, rest)) : rest.length ≤ bytes.length := by
  unfold fixedHeader at h
  split at h
  · split at h
    · split at h
      · cases h
        simp only [List.length_cons]
        omega
      · cases h
    · cases h
  · cases h

theorem bind_eq_ok_iff {α β : Type} {x : Except Fault α} {f : α → Except Fault β} {b : β} :
    (x >>= f) = .ok b ↔ ∃ a, x = .ok a ∧ f a = .ok b := by
  cases x with
  | error e => simp [Bind.bind, Except.bind]
  | ok a => simp [Bind.bind, Except.bind]

/-- The steps of reading a header. -/
theorem skipHeader_eq_ok_iff {bytes rest : List UInt8} :
    skipHeader bytes = .ok rest ↔ ∃ flags r₀ r₁ r₂ r₃, fixedHeader bytes = .ok (flags, r₀) ∧
      skipIf flags.extra skipExtra r₀ = .ok r₁ ∧ skipIf flags.name skipText r₁ = .ok r₂ ∧
      skipIf flags.comment skipText r₂ = .ok r₃ ∧
      skipIf flags.checksum (skipChecksum (bytes.take (bytes.length - r₃.length))) r₃ =
        .ok rest := by
  simp only [skipHeader, bind_eq_ok_iff, Prod.exists, exists_and_left]

theorem length_skipHeader_le {bytes rest : List UInt8} (h : skipHeader bytes = .ok rest) :
    rest.length ≤ bytes.length := by
  obtain ⟨flags, r₀, r₁, r₂, r₃, h₀, h₁, h₂, h₃, h₄⟩ := skipHeader_eq_ok_iff.1 h
  have l₀ := length_fixedHeader_le h₀
  have l₁ := skips_extra.ifPresent _ h₁
  have l₂ := skips_text.ifPresent _ h₂
  have l₃ := skips_text.ifPresent _ h₃
  have l₄ := (skips_checksum _).ifPresent _ h₄
  omega

/-- A whole member takes at least one byte. -/
theorem length_rest_lt {offset : Nat} {bytes payload rest : List UInt8}
    (h : decodeMember offset bytes = .whole payload rest) : rest.length < bytes.length := by
  unfold decodeMember at h
  split at h
  · cases h
  · rename_i body hbody
    refine Nat.lt_of_lt_of_le ?_ (length_skipHeader_le hbody)
    unfold decodeBody at h
    split at h
    · exact Nat.lt_of_lt_of_le (length_checkTrailer h) (by simp)
    · cases h
    · cases h

/-! ### Files -/

/-- What reading a whole file comes to: the payloads of its members in order, and the fault that
ends it, if there is one. -/
structure Decoded where
  payloads : List (List UInt8)
  fault? : Option Fault
  deriving DecidableEq, Repr

/-- Reads members up to the end of the file or a fault; `before` are the payloads of those
already read, in reverse, and `offset` is how many bytes of the file they took. A file has at
least one member. -/
def decodeFrom (before : List (List UInt8)) (offset : Nat) (bytes : List UInt8) : Decoded :=
  match _h : decodeMember offset bytes with
  | .faulty payload fault => ⟨(payload :: before).reverse, some fault⟩
  | .whole payload rest =>
    if rest.isEmpty then ⟨(payload :: before).reverse, none⟩
    else decodeFrom (payload :: before) (offset + (bytes.length - rest.length)) rest
termination_by bytes.length
decreasing_by exact length_rest_lt _h

/-- Reads a gzip file. -/
def decodeFile (bytes : List UInt8) : Decoded :=
  decodeFrom [] 0 bytes

end PersonRelations.Gzip
