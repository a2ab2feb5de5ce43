import PersonRelations.Gzip.Member

/-!
# Deflate data inside a longer file

Deflate data say themselves where they end, so what they stand for does not depend on where in a
file they are and on what follows them. This is proved reader by reader. `BitStream.inside` puts a
stream into a longer file; a reader is local (`BitReader.IsLocal`) if a success there is the same
success with the same bits left. Readers that are put together from local ones are local, and so
are the loops over tokens, stored bytes and blocks (`isLocal_inflateFrom`).

Two things could go wrong. A stored block begins at the next byte, so its place is not looked up in
the stream but computed from the position; this stays within the stream since files end with a
whole byte (`BitStream.IsWhole`). And when output is handed over depends on the piece of the file
at hand, which is another one in a longer file; hence outputs are compared by their bytes only.
-/

namespace PersonRelations.Gzip

/-! ### Streams -/

namespace BitStream

/-- The stream when `before` more bytes come before it in the file and the bits `after` follow. -/
def inside (before : Nat) (after : List Bool) (s : BitStream) : BitStream :=
  ⟨s.bits ++ after, s.position + 8 * before⟩

/-- The stream ends with a whole byte of the file. -/
def IsWhole (s : BitStream) : Prop :=
  8 ∣ s.position + s.bits.length

theorem bytesBegun_inside (before : Nat) (after : List Bool) (s : BitStream) :
    (s.inside before after).bytesBegun = s.bytesBegun + before := by
  simp only [bytesBegun, inside]
  omega

end BitStream

theorem bitsOf_append (xs ys : List UInt8) : bitsOf (xs ++ ys) = bitsOf xs ++ bitsOf ys :=
  List.flatMap_append

theorem length_bitsOf (bytes : List UInt8) : (bitsOf bytes).length = 8 * bytes.length := by
  induction bytes with
  | nil => rfl
  | cons b bytes ih =>
    show (bitsOf ([b] ++ bytes)).length = _
    rw [bitsOf_append, List.length_append, ih, List.length_cons]
    simp only [bitsOf, List.flatMap_singleton, List.length_map, List.length_range]
    omega

theorem BitStream.isWhole_ofBytes (offset : Nat) (bytes : List UInt8) :
    (ofBytes offset bytes).IsWhole := by
  show 8 ∣ 8 * offset + (bitsOf bytes).length
  rw [length_bitsOf]
  omega

theorem BitStream.ofBytes_append (before offset : Nat) (bytes more : List UInt8) :
    ofBytes (before + offset) (bytes ++ more) =
      (ofBytes offset bytes).inside before (bitsOf more) := by
  simp only [ofBytes, inside, bitsOf_append, mk.injEq, true_and]
  omega

/-! ### Readers -/

namespace BitReader

variable {α β : Type}

/-- A reader that succeeds reads nothing but the bits it takes: it does the same in a longer
file. -/
def IsLocal (r : BitReader α) : Prop :=
  ∀ ⦃s a t⦄, s.IsWhole → r s = .ok a t →
    t.IsWhole ∧ ∀ before after, r (s.inside before after) = .ok a (t.inside before after)

theorem isLocal_pure (a : α) : IsLocal (pure a : BitReader α) := by
  intro s b t hs h
  cases h
  exact ⟨hs, fun _ _ ↦ rfl⟩

theorem isLocal_corrupt : IsLocal (corrupt : BitReader α) := by
  intro s b t hs h
  cases h

theorem bind_of_ok {r : BitReader α} {f : α → BitReader β} {s mid : BitStream} {a : α}
    (h : r s = .ok a mid) : (r >>= f) s = f a mid := by
  simp only [Bind.bind, EStateM.bind, h]

theorem IsLocal.bind {r : BitReader α} {f : α → BitReader β} (hr : IsLocal r)
    (hf : ∀ a, IsLocal (f a)) : IsLocal (r >>= f) := by
  intro s b t hs h
  obtain ⟨a, mid, h₁, h₂⟩ := bind_eq_ok h
  obtain ⟨hmid, hr'⟩ := hr hs h₁
  obtain ⟨ht, hf'⟩ := hf a hmid h₂
  refine ⟨ht, fun before after ↦ ?_⟩
  rw [bind_of_ok (hr' before after), hf']

theorem isLocal_ite {c : Prop} [Decidable c] {r s : BitReader α} (hr : IsLocal r)
    (hs : IsLocal s) : IsLocal (if c then r else s) := by
  split
  · exact hr
  · exact hs

theorem isLocal_bit : IsLocal bit := by
  rintro ⟨bits, position⟩ b t hs h
  cases bits with
  | nil => cases h
  | cons c bits =>
    cases h
    constructor
    · show 8 ∣ position + 1 + bits.length
      have hs' : 8 ∣ position + (bits.length + 1) := hs
      omega
    · intro before after
      show EStateM.Result.ok b (BitStream.mk (bits ++ after) (position + 8 * before + 1)) = _
      rw [Nat.add_right_comm]
      rfl

theorem isLocal_number (n : Nat) : IsLocal (number n) := by
  induction n with
  | zero => exact isLocal_pure _
  | succ n ih => exact isLocal_bit.bind fun _ ↦ ih.bind fun _ ↦ isLocal_pure _

theorem isLocal_numbers (n count : Nat) : IsLocal (numbers n count) := by
  induction count with
  | zero => exact isLocal_pure _
  | succ count ih => exact (isLocal_number n).bind fun _ ↦ ih.bind fun _ ↦ isLocal_pure _

/-- The bits up to the next byte are there, since the stream ends with a whole byte. -/
theorem isLocal_align : IsLocal align := by
  intro s a t hs h
  cases h
  have hskip : 8 * s.bytesBegun - s.position ≤ s.bits.length := by
    simp only [BitStream.IsWhole, BitStream.bytesBegun] at hs ⊢
    omega
  constructor
  · simp only [BitStream.IsWhole, List.length_drop] at hs ⊢
    omega
  · intro before after
    have hsame : 8 * (s.inside before after).bytesBegun - (s.inside before after).position =
        8 * s.bytesBegun - s.position := by
      rw [BitStream.bytesBegun_inside]
      simp only [BitStream.inside]
      omega
    simp only [align, hsame]
    simp only [BitStream.inside, List.drop_append_of_le_length hskip]
    rw [Nat.add_right_comm]

end BitReader

theorem Code.isLocal_descend (c : Code) : BitReader.IsLocal c.descend := by
  induction c with
  | gap => exact BitReader.isLocal_corrupt
  | leaf s => exact BitReader.isLocal_pure s
  | fork z o hz ho => exact BitReader.isLocal_bit.bind fun _ ↦ BitReader.isLocal_ite ho hz

theorem Code.isLocal_next (c : Code) : BitReader.IsLocal c.next := by
  refine BitReader.isLocal_bit.bind fun b ↦ ?_
  cases c with
  | gap => exact BitReader.isLocal_corrupt
  | leaf s => exact BitReader.isLocal_corrupt
  | fork z o => exact BitReader.isLocal_ite o.isLocal_descend z.isLocal_descend

/-! ### Codes, tokens and heads of blocks -/

theorem isLocal_lengthRun (last? : Option Nat) (symbol : Nat) :
    BitReader.IsLocal (lengthRun last? symbol) := by
  have hrun (bits l least : Nat) :
      BitReader.IsLocal (do let n ← BitReader.number bits; pure (l, n + least)) :=
    (BitReader.isLocal_number bits).bind fun _ ↦ BitReader.isLocal_pure _
  refine BitReader.isLocal_ite (BitReader.isLocal_pure _) (BitReader.isLocal_ite ?_
    (BitReader.isLocal_ite (hrun _ _ _) (hrun _ _ _)))
  cases last? with
  | none => exact BitReader.isLocal_corrupt
  | some l => exact hrun _ _ _

theorem isLocal_codeLengths (c : Code) (total : Nat) (known : Array Nat) :
    BitReader.IsLocal (codeLengths c total known) := by
  fun_induction codeLengths c total known with
  | case1 known h ih =>
    exact c.isLocal_next.bind fun _ ↦ (isLocal_lengthRun _ _).bind fun p ↦ ih _ _
  | case2 => exact BitReader.isLocal_pure _
  | case3 => exact BitReader.isLocal_corrupt

theorem isLocal_blockCodes : BitReader.IsLocal blockCodes := by
  refine (BitReader.isLocal_number _).bind fun _ ↦ (BitReader.isLocal_number _).bind fun _ ↦
    (BitReader.isLocal_number _).bind fun _ ↦
      BitReader.isLocal_ite BitReader.isLocal_corrupt ?_
  refine (BitReader.isLocal_numbers _ _).bind fun _ ↦
    BitReader.isLocal_ite BitReader.isLocal_corrupt ?_
  exact (isLocal_codeLengths _ _ _).bind fun _ ↦
    BitReader.isLocal_ite (BitReader.isLocal_pure _) BitReader.isLocal_corrupt

theorem isLocal_tableNumber (table : List (Nat × Nat)) (i : Nat) :
    BitReader.IsLocal (tableNumber table i) := by
  unfold tableNumber
  split
  · exact BitReader.isLocal_corrupt
  · exact (BitReader.isLocal_number _).bind fun _ ↦ BitReader.isLocal_pure _

theorem isLocal_token (codes : BlockCodes) : BitReader.IsLocal (token codes) := by
  refine codes.literals.isLocal_next.bind fun symbol ↦ ?_
  refine BitReader.isLocal_ite (BitReader.isLocal_pure _)
    (BitReader.isLocal_ite (BitReader.isLocal_pure _) ?_)
  exact (isLocal_tableNumber _ _).bind fun _ ↦ codes.distances.isLocal_next.bind fun _ ↦
    (isLocal_tableNumber _ _).bind fun _ ↦ BitReader.isLocal_pure _

theorem isLocal_headOfKind (kind : Nat) : BitReader.IsLocal (headOfKind kind) := by
  unfold headOfKind
  split
  · exact BitReader.isLocal_align.bind fun _ ↦ (BitReader.isLocal_number _).bind fun _ ↦
      (BitReader.isLocal_number _).bind fun _ ↦
        BitReader.isLocal_ite (BitReader.isLocal_pure _) BitReader.isLocal_corrupt
  · exact BitReader.isLocal_pure _
  · exact isLocal_blockCodes.bind fun _ ↦ BitReader.isLocal_pure _
  · exact BitReader.isLocal_corrupt

theorem isLocal_blockHead : BitReader.IsLocal blockHead :=
  BitReader.isLocal_bit.bind fun _ ↦ (BitReader.isLocal_number 2).bind fun kind ↦
    (isLocal_headOfKind kind).bind fun _ ↦ BitReader.isLocal_pure _

/-! ### Output -/

namespace Output

@[simp]
theorem bytes_upTo (s : BitStream) (o : Output) : (o.upTo s).bytes = o.bytes := by
  unfold upTo
  split <;> rfl

theorem back_congr {o o' : Output} (h : o.bytes = o'.bytes) (distance : Nat) :
    o.back distance = o'.back distance := by
  simp only [back, h]

/-- The bytes of a copy do not depend on the rounds. -/
theorem bytes_copyBack_congr (usedUp usedUp' : Bool) (distance n : Nat) {o o' : Output}
    (h : o.bytes = o'.bytes) :
    (o.copyBack usedUp distance n).bytes = (o'.copyBack usedUp' distance n).bytes := by
  induction n generalizing o o' with
  | zero => exact h
  | succ n ih =>
    refine ih ?_
    rw [bytes_push, bytes_push, h, back_congr h]

end Output

/-! ### Blocks -/

/-- What is done with output and a stream is local if a success is one with the same bytes of
output in a longer file, and from any output with the same bytes. -/
def InflatesLocally (f : Output → BitStream → Inflated) : Prop :=
  ∀ ⦃out s out' t⦄, s.IsWhole → f out s = .complete out' t →
    t.IsWhole ∧ ∀ before after (o : Output), o.bytes = out.bytes →
      ∃ o' : Output, o'.bytes = out'.bytes ∧
        f o (s.inside before after) = .complete o' (t.inside before after)

/-- One step of reading tokens, by the token that was read. -/
theorem tokens_of_token (codes : BlockCodes) (out : Output) (s t : BitStream) (tok : Token) :
    token codes s = .ok tok t → tokens codes out s =
      match tok with
      | .endOfBlock => .complete (out.upTo t) t
      | .byte b => tokens codes ((out.upTo t).push t.isPieceUsedUp b) t
      | .copy length distance =>
        tokens codes ((out.upTo t).copyBack t.isPieceUsedUp distance length) t := by
  intro h
  rw [tokens]
  split <;> rename_i hm <;> rw [h] at hm <;> cases hm <;> rfl

theorem isLocal_tokens (codes : BlockCodes) : InflatesLocally (tokens codes) := by
  intro out s out' t hs h
  fun_induction tokens codes out s with
  | case1 => exact absurd h after_ne_complete
  | case2 out s mid hm =>
    cases h
    obtain ⟨hmid, htoken⟩ := isLocal_token codes hs hm
    refine ⟨hmid, fun before after o ho ↦ ?_⟩
    rw [tokens_of_token _ _ _ _ _ (htoken before after)]
    exact ⟨_, by simp [ho], rfl⟩
  | case3 out s b mid hm ih =>
    obtain ⟨hmid, htoken⟩ := isLocal_token codes hs hm
    obtain ⟨ht, hrest⟩ := ih hmid h
    refine ⟨ht, fun before after o ho ↦ ?_⟩
    rw [tokens_of_token _ _ _ _ _ (htoken before after)]
    exact hrest before after _ (by simp [ho])
  | case4 out s l d mid hm ih =>
    obtain ⟨hmid, htoken⟩ := isLocal_token codes hs hm
    obtain ⟨ht, hrest⟩ := ih hmid h
    refine ⟨ht, fun before after o ho ↦ ?_⟩
    rw [tokens_of_token _ _ _ _ _ (htoken before after)]
    exact hrest before after _ (Output.bytes_copyBack_congr _ _ _ _ (by simp [ho]))

theorem isLocal_stored (n : Nat) : InflatesLocally (stored n) := by
  intro out s out' t hs h
  fun_induction stored n out s with
  | case1 =>
    cases h
    exact ⟨hs, fun before after o ho ↦ ⟨o, ho, rfl⟩⟩
  | case2 => exact absurd h after_ne_complete
  | case3 n out s b mid hm ih =>
    obtain ⟨hmid, hbyte⟩ := BitReader.isLocal_number 8 hs hm
    obtain ⟨ht, hrest⟩ := ih hmid h
    refine ⟨ht, fun before after o ho ↦ ?_⟩
    simp only [stored, hbyte before after]
    exact hrest before after _ (by simp [ho])

theorem BlockBody.isLocal_inflate (body : BlockBody) : InflatesLocally body.inflate := by
  cases body with
  | stored n => exact isLocal_stored n
  | coded codes => exact isLocal_tokens codes

/-- One block of deflate data. -/
theorem inflateFrom_of_block {s mid rest : BitStream} {last : Bool} {body : BlockBody}
    {out out' : Output} (hhead : blockHead s = .ok (last, body) mid)
    (hbody : body.inflate (out.upTo mid) mid = .complete out' rest) :
    inflateFrom out s = if last then .complete out' rest else inflateFrom out' rest := by
  rw [inflateFrom]
  split <;> rename_i hm <;> rw [hhead] at hm <;> cases hm
  split <;> rename_i hm <;> rw [hbody] at hm <;> cases hm
  rfl

/-- A block is the same block in a longer file. -/
theorem isLocal_block {s mid rest : BitStream} {last : Bool} {body : BlockBody}
    {out out' : Output} (hs : s.IsWhole) (hhead : blockHead s = .ok (last, body) mid)
    (hbody : body.inflate (out.upTo mid) mid = .complete out' rest) :
    rest.IsWhole ∧ ∀ before after (o : Output), o.bytes = out.bytes →
      ∃ o' : Output, o'.bytes = out'.bytes ∧ inflateFrom o (s.inside before after) =
        if last then .complete o' (rest.inside before after)
        else inflateFrom o' (rest.inside before after) := by
  obtain ⟨hmid, hhead'⟩ := isLocal_blockHead hs hhead
  obtain ⟨hrest, hbody'⟩ := body.isLocal_inflate hmid hbody
  refine ⟨hrest, fun before after o ho ↦ ?_⟩
  obtain ⟨o', ho', hinflate⟩ :=
    hbody' before after (o.upTo (mid.inside before after)) (by simp [ho])
  exact ⟨o', ho', inflateFrom_of_block (hhead' before after) hinflate⟩

/-- **Deflate data are read the same** wherever they stand in a file and whatever follows. -/
theorem isLocal_inflateFrom : InflatesLocally inflateFrom := by
  intro out s out' t hs h
  fun_induction inflateFrom out s with
  | case1 => exact absurd h after_ne_complete
  | case2 out s body mid out₁ rest hbody hhead =>
    cases h
    exact isLocal_block hs hhead hbody
  | case3 out s last body mid hhead out₁ rest hbody hlast ih =>
    obtain ⟨hrest, hblock⟩ := isLocal_block hs hhead hbody
    obtain ⟨ht, hmore⟩ := ih hrest h
    refine ⟨ht, fun before after o ho ↦ ?_⟩
    obtain ⟨o₁, ho₁, hfirst⟩ := hblock before after o ho
    rw [hfirst, if_neg hlast]
    exact hmore before after o₁ ho₁
  | case4 => cases h
  | case5 => cases h

theorem inflate_inside {s t : BitStream} {out : Output} (hs : s.IsWhole)
    (h : inflate s = .complete out t) (before : Nat) (after : List Bool) :
    ∃ out' : Output, out'.bytes = out.bytes ∧
      inflate (s.inside before after) = .complete out' (t.inside before after) :=
  (isLocal_inflateFrom hs h).2 before after (.start _) rfl

end PersonRelations.Gzip
