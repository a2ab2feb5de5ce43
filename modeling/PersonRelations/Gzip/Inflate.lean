import PersonRelations.Gzip.Code
import PersonRelations.Gzip.Output

/-!
# Deflate data

Deflate data are a sequence of blocks, the last of which is marked. A block is either a run of
stored bytes or a sequence of coded tokens: bytes, copies of earlier output given by length and
distance, and the end of the block. The codes are fixed ones or stand, themselves coded, at the
head of the block.

`inflate` gives the output with the stream behind the last block, or says that the bits ran out and
what the output was up to there, or that they break the rules and what of the output had been
handed over by then.
-/

namespace PersonRelations.Gzip

/-- What reading deflate data comes to. -/
inductive Inflated where
  /-- The output of all blocks, and the stream behind them. -/
  | complete (out : Output) (rest : BitStream)
  /-- The bits ran out after this output. -/
  | truncated (out : Array UInt8)
  /-- The bits break the rules; this is what had been handed over. -/
  | corrupt (given : Array UInt8)

/-- What becomes of the output when a reader stops. -/
def Stop.after (out : Output) : Stop → Inflated
  | short => .truncated out.bytes
  | corrupt => .corrupt out.given

/-! ### The codes of a block -/

/-- The codes that symbols of a block are written in. -/
structure BlockCodes where
  /-- Bytes, lengths and the end of the block. -/
  literals : Code
  /-- Distances. -/
  distances : Code

/-- The codes that need no description. -/
def BlockCodes.fixed : BlockCodes where
  literals := .ofLengths (List.replicate 144 8 ++ List.replicate 112 9 ++ List.replicate 24 7 ++
    List.replicate 8 8)
  distances := .ofLengths (List.replicate 32 5)

/-- The order in which the lengths of the code for code lengths are given. -/
def lengthOrder : List Nat :=
  [16, 17, 18, 0, 8, 7, 9, 6, 10, 5, 11, 4, 12, 3, 13, 2, 14, 1, 15]

/-- The lengths by symbol, from a list in the order of `lengthOrder`. -/
def reorder (given : List Nat) : List Nat :=
  (List.range lengthOrder.length).map fun s ↦
    ((lengthOrder.zip given).lookup s).getD 0

/-- What a symbol of the code for code lengths stands for: a length, and how often it comes beyond
the first time. -/
def lengthRun (last? : Option Nat) (symbol : Nat) : BitReader (Nat × Nat) :=
  if symbol < 16 then pure (symbol, 0)
  else if symbol = 16 then
    match last? with
    | none => BitReader.corrupt
    | some l => do
      let n ← BitReader.number 2
      pure (l, n + 2)
  else if symbol = 17 then do
    let n ← BitReader.number 3
    pure (0, n + 2)
  else do
    let n ← BitReader.number 7
    pure (0, n + 10)

/-- Reads code lengths until there are `total`; `known` are the first ones. A run may not go
beyond. -/
def codeLengths (c : Code) (total : Nat) (known : Array Nat) : BitReader (List Nat) :=
  if known.size < total then do
    let symbol ← c.next
    let (l, again) ← lengthRun known.back? symbol
    codeLengths c total (known ++ Array.replicate (again + 1) l)
  else if known.size = total then pure known.toList
  else BitReader.corrupt
termination_by total - known.size
decreasing_by
  simp only [Array.size_append, Array.size_replicate]
  omega

/-- Reads the codes at the head of a block. The code for code lengths has to be complete, the
other two usable. -/
def blockCodes : BitReader BlockCodes := do
  let literalCount := (← BitReader.number 5) + 257
  let distanceCount := (← BitReader.number 5) + 1
  let lengthCount := (← BitReader.number 4) + 4
  if literalCount > 286 ∨ distanceCount > 30 then BitReader.corrupt
  else
    let given ← BitReader.numbers 3 lengthCount
    let inner := reorder given
    if !Code.isComplete inner then BitReader.corrupt
    else
      let lengths ← codeLengths (.ofLengths inner) (literalCount + distanceCount) #[]
      let (ls, ds) := lengths.splitAt literalCount
      if Code.isUsable ls && Code.isUsable ds then
        pure ⟨.ofLengths ls, .ofLengths ds⟩
      else BitReader.corrupt

/-! ### Tokens -/

/-- The least length of each length symbol, from 257 on, and how many bits are added to it. -/
def lengthTable : List (Nat × Nat) :=
  [(3, 0), (4, 0), (5, 0), (6, 0), (7, 0), (8, 0), (9, 0), (10, 0), (11, 1), (13, 1), (15, 1),
    (17, 1), (19, 2), (23, 2), (27, 2), (31, 2), (35, 3), (43, 3), (51, 3), (59, 3), (67, 4),
    (83, 4), (99, 4), (115, 4), (131, 5), (163, 5), (195, 5), (227, 5), (258, 0)]

/-- The least distance of each distance symbol, and how many bits are added to it. -/
def distanceTable : List (Nat × Nat) :=
  [(1, 0), (2, 0), (3, 0), (4, 0), (5, 1), (7, 1), (9, 2), (13, 2), (17, 3), (25, 3), (33, 4),
    (49, 4), (65, 5), (97, 5), (129, 6), (193, 6), (257, 7), (385, 7), (513, 8), (769, 8),
    (1025, 9), (1537, 9), (2049, 10), (3073, 10), (4097, 11), (6145, 11), (8193, 12),
    (12289, 12), (16385, 13), (24577, 13)]

/-- Reads the number that the entry of a table stands for; there may be no such entry. -/
def tableNumber (table : List (Nat × Nat)) (i : Nat) : BitReader Nat :=
  match table[i]? with
  | none => BitReader.corrupt
  | some (least, bits) => do
    let n ← BitReader.number bits
    pure (least + n)

/-- One step of a coded block. -/
inductive Token where
  /-- A byte of output. -/
  | byte (b : UInt8)
  /-- The end of the block. -/
  | endOfBlock
  /-- `length` bytes of output, from `distance` bytes before. -/
  | copy (length distance : Nat)

/-- Reads what follows the symbol of a token. -/
def tokenOf (codes : BlockCodes) (symbol : Nat) : BitReader Token :=
  if symbol < 256 then pure (.byte symbol.toUInt8)
  else if symbol = 256 then pure .endOfBlock
  else do
    let length ← tableNumber lengthTable (symbol - 257)
    let d ← codes.distances.next
    let distance ← tableNumber distanceTable d
    pure (.copy length distance)

/-- Reads a token. -/
def token (codes : BlockCodes) : BitReader Token := do
  let symbol ← codes.literals.next
  tokenOf codes symbol

theorem shrinks_tableNumber (table : List (Nat × Nat)) (i : Nat) :
    BitReader.Shrinks (tableNumber table i) := by
  unfold tableNumber
  split
  · exact BitReader.shrinks_corrupt
  · exact (BitReader.shrinks_number _).bind fun _ ↦ BitReader.shrinks_pure _

theorem shrinks_tokenOf (codes : BlockCodes) (symbol : Nat) :
    BitReader.Shrinks (tokenOf codes symbol) := by
  refine BitReader.shrinks_ite (BitReader.shrinks_pure _)
    (BitReader.shrinks_ite (BitReader.shrinks_pure _) ?_)
  exact (shrinks_tableNumber _ _).bind fun _ ↦ (Code.shrinks_next _).bind fun _ ↦
    (shrinks_tableNumber _ _).bind fun _ ↦ BitReader.shrinks_pure _

/-- A token takes at least one bit. -/
theorem length_lt_of_token {codes : BlockCodes} {s t : BitStream} {tok : Token}
    (h : token codes s = .ok tok t) : t.bits.length < s.bits.length := by
  obtain ⟨symbol, mid, h₁, h₂⟩ := BitReader.bind_eq_ok h
  exact Nat.lt_of_le_of_lt (shrinks_tokenOf _ _ h₂) (Code.length_lt_of_next h₁)

/-- Reads tokens up to the end of the block. -/
def tokens (codes : BlockCodes) (out : Output) (s : BitStream) : Inflated :=
  match _h : token codes s with
  | .error stop t => stop.after (out.upTo t)
  | .ok .endOfBlock t => .complete (out.upTo t) t
  | .ok (.byte b) t => tokens codes ((out.upTo t).push t.isPieceUsedUp b) t
  | .ok (.copy length distance) t =>
    tokens codes ((out.upTo t).copyBack t.isPieceUsedUp distance length) t
termination_by s.bits.length
decreasing_by all_goals exact length_lt_of_token _h

/-! ### Blocks -/

/-- Copies stored bytes. -/
def stored : Nat → Output → BitStream → Inflated
  | 0, out, s => .complete out s
  | n + 1, out, s =>
    match BitReader.number 8 s with
    | .error stop t => stop.after (out.upTo t)
    | .ok b t => stored n ((out.upTo t).push t.isPieceUsedUp b.toUInt8) t

/-- What follows the head of a block. -/
inductive BlockBody where
  /-- So many bytes. -/
  | stored (size : Nat)
  /-- Tokens in these codes. -/
  | coded (codes : BlockCodes)

/-- Reads what follows the head of a block. -/
def BlockBody.inflate : BlockBody → Output → BitStream → Inflated
  | stored n, out, s => Gzip.stored n out s
  | coded codes, out, s => tokens codes out s

/-- Reads the head of a stored block: the size, and again with all bits changed. -/
def storedHead : BitReader BlockBody := do
  BitReader.align
  let size ← BitReader.number 16
  let check ← BitReader.number 16
  if size + check = 0xFFFF then pure (.stored size) else BitReader.corrupt

/-- Reads the head of a block of the given kind. -/
def headOfKind : Nat → BitReader BlockBody
  | 0 => storedHead
  | 1 => pure (.coded .fixed)
  | 2 => do
    let codes ← blockCodes
    pure (.coded codes)
  | _ => BitReader.corrupt

/-- Reads the head of a block: whether it is the last, and what follows. -/
def blockHead : BitReader (Bool × BlockBody) := do
  let last ← BitReader.bit
  let kind ← BitReader.number 2
  let body ← headOfKind kind
  pure (last, body)

theorem shrinks_lengthRun (last? : Option Nat) (symbol : Nat) :
    BitReader.Shrinks (lengthRun last? symbol) := by
  unfold lengthRun
  refine BitReader.shrinks_ite (BitReader.shrinks_pure _) (BitReader.shrinks_ite ?_
    (BitReader.shrinks_ite ?_ ?_))
  · split
    · exact BitReader.shrinks_corrupt
    · exact (BitReader.shrinks_number _).bind fun _ ↦ BitReader.shrinks_pure _
  · exact (BitReader.shrinks_number _).bind fun _ ↦ BitReader.shrinks_pure _
  · exact (BitReader.shrinks_number _).bind fun _ ↦ BitReader.shrinks_pure _

theorem shrinks_codeLengths (c : Code) (total : Nat) (known : Array Nat) :
    BitReader.Shrinks (codeLengths c total known) := by
  fun_induction codeLengths c total known with
  | case1 known h ih =>
    exact (Code.shrinks_next _).bind fun _ ↦ (shrinks_lengthRun _ _).bind fun p ↦ ih _ _
  | case2 => exact BitReader.shrinks_pure _
  | case3 => exact BitReader.shrinks_corrupt

theorem shrinks_blockCodes : BitReader.Shrinks blockCodes := by
  refine (BitReader.shrinks_number _).bind fun _ ↦ (BitReader.shrinks_number _).bind fun _ ↦
    (BitReader.shrinks_number _).bind fun _ ↦ BitReader.shrinks_ite BitReader.shrinks_corrupt ?_
  refine (BitReader.shrinks_numbers _ _).bind fun _ ↦
    BitReader.shrinks_ite BitReader.shrinks_corrupt ?_
  exact (shrinks_codeLengths _ _ _).bind fun _ ↦
    BitReader.shrinks_ite (BitReader.shrinks_pure _) BitReader.shrinks_corrupt

theorem shrinks_headOfKind (kind : Nat) : BitReader.Shrinks (headOfKind kind) := by
  unfold headOfKind
  split
  · exact BitReader.shrinks_align.bind fun _ ↦ (BitReader.shrinks_number _).bind fun _ ↦
      (BitReader.shrinks_number _).bind fun _ ↦
        BitReader.shrinks_ite (BitReader.shrinks_pure _) BitReader.shrinks_corrupt
  · exact BitReader.shrinks_pure _
  · exact shrinks_blockCodes.bind fun _ ↦ BitReader.shrinks_pure _
  · exact BitReader.shrinks_corrupt

/-- The head of a block takes at least one bit. -/
theorem length_lt_of_blockHead {s t : BitStream} {head : Bool × BlockBody}
    (h : blockHead s = .ok head t) : t.bits.length < s.bits.length := by
  obtain ⟨last, mid, h₁, h₂⟩ := BitReader.bind_eq_ok h
  refine Nat.lt_of_le_of_lt ?_ (BitReader.length_lt_of_bit h₁)
  exact (BitReader.shrinks_number 2).bind (fun k ↦ (shrinks_headOfKind k).bind fun _ ↦
    BitReader.shrinks_pure _) h₂

theorem after_ne_complete {stop : Stop} {out out' : Output} {t : BitStream} :
    stop.after out ≠ .complete out' t := by
  cases stop <;> simp [Stop.after]

theorem length_le_of_tokens {codes : BlockCodes} {out out' : Output} {s t : BitStream}
    (h : tokens codes out s = .complete out' t) : t.bits.length ≤ s.bits.length := by
  fun_induction tokens codes out s with
  | case1 => exact absurd h after_ne_complete
  | case2 out s mid hm =>
    cases h
    exact Nat.le_of_lt (length_lt_of_token hm)
  | case3 out s b mid hm ih => exact Nat.le_trans (ih h) (Nat.le_of_lt (length_lt_of_token hm))
  | case4 out s l d mid hm ih =>
    exact Nat.le_trans (ih h) (Nat.le_of_lt (length_lt_of_token hm))

theorem length_le_of_stored {n : Nat} {out out' : Output} {s t : BitStream}
    (h : stored n out s = .complete out' t) : t.bits.length ≤ s.bits.length := by
  fun_induction stored n out s with
  | case1 =>
    cases h
    exact Nat.le_refl _
  | case2 => exact absurd h after_ne_complete
  | case3 n out s b mid hm ih => exact Nat.le_trans (ih h) (BitReader.shrinks_number 8 hm)

theorem BlockBody.length_le_of_inflate {body : BlockBody} {out out' : Output} {s t : BitStream}
    (h : body.inflate out s = .complete out' t) : t.bits.length ≤ s.bits.length := by
  cases body with
  | stored n => exact length_le_of_stored h
  | coded codes => exact length_le_of_tokens h

/-- Reads blocks up to the last; `out` is the output of those before. -/
def inflateFrom (out : Output) (s : BitStream) : Inflated :=
  match _h : blockHead s with
  | .error stop t => stop.after (out.upTo t)
  | .ok (last, body) t =>
    match _h' : body.inflate (out.upTo t) t with
    | .complete out rest => if last then .complete out rest else inflateFrom out rest
    | .truncated bytes => .truncated bytes
    | .corrupt given => .corrupt given
termination_by s.bits.length
decreasing_by
  exact Nat.lt_of_le_of_lt (body.length_le_of_inflate _h') (length_lt_of_blockHead _h)

/-- Reads deflate data. -/
def inflate (s : BitStream) : Inflated :=
  inflateFrom (.start s) s

end PersonRelations.Gzip
