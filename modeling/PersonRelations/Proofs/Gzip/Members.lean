import Mathlib.Data.List.Forall2
import PersonRelations.Proofs.Gzip.Locality
import PersonRelations.Proofs.Run.BrokenInput

/-!
# Dumps of several members

A dump may be put together from gzip files. That a file has one member is a statement about the file
alone (`Gzip.IsMember`), and such a file is read in the same way when other bytes come before and
behind it (`Gzip.IsMember.decodeMember_append`): its header and trailer are found by counting bytes
from its beginning, and the deflate data between them are local.

So the payloads of a sequence of members are read one after the other, whatever comes behind
(`Gzip.decodeFrom_members`), and since a source does not show where its chunks end, the lines of the
dump are those of all payloads together, or, if what comes behind begins no member, those of them
that have an ending (`concatenated_members_read`).
-/

namespace PersonRelations

namespace Gzip

/-! ### Headers -/

/-- A step of reading a header that succeeds does the same when more bytes follow. -/
def SkipsLocally (skip : List UInt8 → Except Fault (List UInt8)) : Prop :=
  ∀ ⦃bytes rest⦄, skip bytes = .ok rest → ∀ more, skip (bytes ++ more) = .ok (rest ++ more)

theorem skipsLocally_extra : SkipsLocally skipExtra := by
  intro bytes rest h more
  unfold skipExtra at h
  split at h
  · rename_i a b tail
    split at h
    · rename_i hle
      cases h
      have hle' : word16 a b ≤ (tail ++ more).length := by
        rw [List.length_append]
        omega
      simp only [List.cons_append, skipExtra, if_pos hle', List.drop_append_of_le_length hle]
    · cases h
  · cases h

theorem skipsLocally_text : SkipsLocally skipText := by
  intro bytes rest h more
  unfold skipText at h
  split at h
  · cases h
  · rename_i hshort
    split at h
    · cases h
    · rename_i zero tail hdrop
      obtain rfl : tail = rest := Except.ok.inj h
      -- the zero byte is found, so the text does not reach into what follows
      have hlen := congrArg List.length
        (List.takeWhile_append_dropWhile (p := (· != 0)) (l := bytes))
      rw [List.length_append, hdrop, List.length_cons] at hlen
      have htake : (bytes ++ more).takeWhile (· != 0) = bytes.takeWhile (· != 0) := by
        rw [List.takeWhile_append, if_neg (by omega)]
      have hdrop' : (bytes ++ more).dropWhile (· != 0) = zero :: (tail ++ more) := by
        rw [List.dropWhile_append, hdrop]
        rfl
      rw [skipText, htake, if_neg hshort, hdrop']

theorem skipsLocally_checksum (header : List UInt8) : SkipsLocally (skipChecksum header) := by
  intro bytes rest h more
  unfold skipChecksum at h
  split at h
  · split at h
    · rename_i heq
      cases h
      simp only [List.cons_append, skipChecksum, if_pos heq]
    · cases h
  · cases h

theorem SkipsLocally.ifPresent {skip : List UInt8 → Except Fault (List UInt8)}
    (h : SkipsLocally skip) (present : Bool) : SkipsLocally (skipIf present skip) := by
  intro bytes rest hr more
  cases present with
  | false =>
    cases hr
    rfl
  | true => exact h hr more

theorem fixedHeader_append {bytes rest : List UInt8} {flags : Flags}
    (h : fixedHeader bytes = .ok (flags, rest)) (more : List UInt8) :
    fixedHeader (bytes ++ more) = .ok (flags, rest ++ more) := by
  unfold fixedHeader at h
  split at h
  · split at h
    · rename_i hmagic
      split at h
      · rename_i hflags
        cases h
        simp only [List.cons_append, fixedHeader, if_pos hmagic, hflags]
      · cases h
    · cases h
  · cases h

theorem skipsLocally_header : SkipsLocally skipHeader := by
  intro bytes rest h more
  obtain ⟨flags, r₀, r₁, r₂, r₃, h₀, h₁, h₂, h₃, h₄⟩ := skipHeader_eq_ok_iff.1 h
  refine skipHeader_eq_ok_iff.2 ⟨flags, r₀ ++ more, r₁ ++ more, r₂ ++ more, r₃ ++ more,
    fixedHeader_append h₀ more, skipsLocally_extra.ifPresent _ h₁ more,
    skipsLocally_text.ifPresent _ h₂ more, skipsLocally_text.ifPresent _ h₃ more, ?_⟩
  -- the checksum is that of the same bytes
  have htake : (bytes ++ more).take ((bytes ++ more).length - (r₃ ++ more).length) =
      bytes.take (bytes.length - r₃.length) := by
    rw [List.length_append, List.length_append, Nat.add_sub_add_right]
    exact List.take_append_of_le_length (Nat.sub_le _ _)
  rw [htake]
  exact (skipsLocally_checksum _).ifPresent _ h₄ more

/-! ### Members -/

theorem checkTrailer_append {payload p bytes rest : List UInt8}
    (h : checkTrailer payload bytes = .whole p rest) (more : List UInt8) :
    checkTrailer payload (bytes ++ more) = .whole p (rest ++ more) := by
  unfold checkTrailer at h
  split at h
  · split at h
    · rename_i hmatch
      cases h
      simp only [List.cons_append, checkTrailer, if_pos hmatch]
    · cases h
  · cases h

theorem decodeBody_append {offset : Nat} {bytes payload rest : List UInt8}
    (h : decodeBody offset bytes = .whole payload rest) (before : Nat) (more : List UInt8) :
    decodeBody (before + offset) (bytes ++ more) = .whole payload (rest ++ more) := by
  unfold decodeBody at h
  split at h
  · rename_i out t hinflate
    obtain ⟨out', hout', hinside⟩ :=
      inflate_inside (BitStream.isWhole_ofBytes offset bytes) hinflate before (bitsOf more)
    -- the trailer has bytes, so it begins inside
    have hle : t.bytesBegun - offset ≤ bytes.length := by
      have hlt := length_checkTrailer h
      rw [List.length_drop] at hlt
      omega
    have hsame : t.bytesBegun + before - (before + offset) = t.bytesBegun - offset := by omega
    rw [decodeBody, BitStream.ofBytes_append, hinside]
    simp only [BitStream.bytesBegun_inside, hsame, hout', List.drop_append_of_le_length hle]
    exact checkTrailer_append h more
  · cases h
  · cases h

/-- The file is one member with this payload. -/
def IsMember (file payload : List UInt8) : Prop :=
  decodeFile file = ⟨[payload], none⟩

instance (file payload : List UInt8) : Decidable (IsMember file payload) :=
  inferInstanceAs (Decidable (decodeFile file = ⟨[payload], none⟩))

/-- One member of a file. -/
theorem decodeFrom_of_whole {offset : Nat} {bytes payload rest : List UInt8}
    (h : decodeMember offset bytes = .whole payload rest) (before : List (List UInt8)) :
    decodeFrom before offset bytes =
      if rest.isEmpty then ⟨(payload :: before).reverse, none⟩
      else decodeFrom (payload :: before) (offset + (bytes.length - rest.length)) rest := by
  rw [decodeFrom]
  split <;> rename_i hm <;> rw [h] at hm <;> cases hm
  rfl

theorem decodeFrom_of_faulty {offset : Nat} {bytes payload : List UInt8} {fault : Fault}
    (h : decodeMember offset bytes = .faulty payload fault) (before : List (List UInt8)) :
    decodeFrom before offset bytes = ⟨(payload :: before).reverse, some fault⟩ := by
  rw [decodeFrom]
  split <;> rename_i hm <;> rw [h] at hm <;> cases hm
  rfl

/-- Every reading gives at least one more payload. -/
theorem length_payloads_decodeFrom (before : List (List UInt8)) (offset : Nat)
    (bytes : List UInt8) :
    before.length < (decodeFrom before offset bytes).payloads.length := by
  fun_induction decodeFrom before offset bytes with
  | case1 => simp
  | case2 => simp
  | case3 before offset bytes payload rest h hrest ih =>
    rw [List.length_cons] at ih
    omega

/-- A file is one member if nothing is left behind the first. -/
theorem IsMember.decodeMember_eq {file payload : List UInt8} (h : IsMember file payload) :
    decodeMember 0 file = .whole payload [] := by
  rw [IsMember, decodeFile] at h
  cases hm : decodeMember 0 file with
  | faulty p fault =>
    rw [decodeFrom_of_faulty hm] at h
    cases h
  | whole p rest =>
    rw [decodeFrom_of_whole hm] at h
    cases rest with
    | nil =>
      cases h
      rfl
    | cons b rest =>
      have hmore := length_payloads_decodeFrom [p] (0 + (file.length - (b :: rest).length))
        (b :: rest)
      have hone : decodeFrom [p] (0 + (file.length - (b :: rest).length)) (b :: rest) =
        ⟨[payload], none⟩ := h
      rw [hone] at hmore
      exact absurd hmore (Nat.lt_irrefl 1)

theorem IsMember.ne_nil {file payload : List UInt8} (h : IsMember file payload) : file ≠ [] := by
  rintro rfl
  exact Nat.not_lt_zero _ (length_rest_lt h.decodeMember_eq)

/-- **A member inside a longer file** is read to its end and no further. -/
theorem IsMember.decodeMember_append {file payload : List UInt8} (h : IsMember file payload)
    (offset : Nat) (more : List UInt8) :
    decodeMember offset (file ++ more) = .whole payload more := by
  have halone := h.decodeMember_eq
  unfold decodeMember at halone
  split at halone
  · cases halone
  · rename_i body hbody
    have hoffset : offset + ((file ++ more).length - (body ++ more).length) =
        offset + (0 + (file.length - body.length)) := by
      rw [List.length_append, List.length_append, Nat.add_sub_add_right, Nat.zero_add]
    rw [decodeMember, skipsLocally_header hbody more]
    simp only [hoffset]
    exact decodeBody_append halone offset more

/-! ### Files -/

/-- **Members one after the other** give their payloads in order; then the file ends, or the
reading goes on with what comes behind. -/
theorem decodeFrom_members {files payloads : List (List UInt8)}
    (h : List.Forall₂ IsMember files payloads) (hne : files ≠ []) (before : List (List UInt8))
    (offset : Nat) (tail : List UInt8) :
    decodeFrom before offset (files.flatten ++ tail) =
      if tail.isEmpty then ⟨(payloads.reverse ++ before).reverse, none⟩
      else decodeFrom (payloads.reverse ++ before) (offset + files.flatten.length) tail := by
  induction h generalizing before offset with
  | nil => exact absurd rfl hne
  | @cons m d files payloads hm hrest ih =>
    have hoffset : offset + ((m ++ (files.flatten ++ tail)).length -
        (files.flatten ++ tail).length) = offset + m.length := by
      rw [List.length_append, Nat.add_sub_cancel]
    rw [List.flatten_cons, List.append_assoc,
      decodeFrom_of_whole (hm.decodeMember_append offset _), hoffset, List.length_append,
      ← Nat.add_assoc]
    cases hrest with
    | nil => rfl
    | @cons m' d' files payloads hm' hrest' =>
      have hmore : ¬((m' :: files).flatten ++ tail).isEmpty = true := by simp [hm'.ne_nil]
      rw [if_neg hmore, ih (List.cons_ne_nil _ _), List.reverse_cons (a := d), List.append_assoc]
      rfl

/-- Bytes behind the members of a file that do not begin another one: too few for a header, or
without its magic number. -/
def BeginsNoMember (tail : List UInt8) : Prop :=
  1 ≤ tail.length ∧ tail.length ≤ 9 ∨ 10 ≤ tail.length ∧ tail.take 2 ≠ [0x1F, 0x8B]

/-- The fault of such bytes. -/
def noMemberFault (tail : List UInt8) : Fault :=
  if tail.length ≤ 9 then .unexpectedEnd else .header

theorem fixedHeader_of_beginsNoMember {tail : List UInt8} (h : BeginsNoMember tail) :
    fixedHeader tail = .error (noMemberFault tail) := by
  unfold fixedHeader noMemberFault
  split
  · rename_i m₀ m₁ method flags _ _ _ _ _ _ rest
    have hmagic : ¬(m₀ = 0x1F ∧ m₁ = 0x8B ∧ method = 8) := by
      rintro ⟨rfl, rfl, -⟩
      simp only [BeginsNoMember, List.length_cons, List.take_succ_cons, List.take_zero, ne_eq,
        not_true_eq_false, and_false, or_false] at h
      omega
    rw [if_neg hmagic, if_neg (by simp)]
  · rename_i hshort
    have hlen : tail.length ≤ 9 := by
      by_contra hlong
      have hlt : 9 < tail.length := by omega
      exact hshort tail[0] tail[1] tail[2] tail[3] tail[4] tail[5] tail[6] tail[7] tail[8] tail[9]
        (tail.drop 10) (by simp only [List.getElem_cons_drop, List.drop_zero])
    rw [if_pos hlen]

theorem decodeMember_of_beginsNoMember {tail : List UInt8} (h : BeginsNoMember tail)
    (offset : Nat) : decodeMember offset tail = .faulty [] (noMemberFault tail) := by
  have hheader : skipHeader tail = .error (noMemberFault tail) := by
    simp only [skipHeader, fixedHeader_of_beginsNoMember h, Bind.bind, Except.bind]
  rw [decodeMember, hheader]

section

variable {files payloads : List (List UInt8)}

/-- A file of members and nothing else. -/
theorem decodeFile_members (h : List.Forall₂ IsMember files payloads) (hne : files ≠ []) :
    decodeFile files.flatten = ⟨payloads, none⟩ := by
  have hfile := decodeFrom_members h hne [] 0 []
  rw [List.append_nil, List.append_nil, List.reverse_reverse] at hfile
  exact hfile

/-- A file of members and bytes that begin none: these have no payload. -/
theorem decodeFile_members_append (h : List.Forall₂ IsMember files payloads) (hne : files ≠ [])
    {tail : List UInt8} (htail : BeginsNoMember tail) :
    decodeFile (files.flatten ++ tail) = ⟨payloads ++ [[]], some (noMemberFault tail)⟩ := by
  have hsome : ¬tail.isEmpty = true := by
    intro hnil
    rw [List.isEmpty_iff] at hnil
    subst hnil
    simp [BeginsNoMember] at htail
  rw [decodeFile, decodeFrom_members h hne, if_neg hsome,
    decodeFrom_of_faulty (decodeMember_of_beginsNoMember htail _)]
  simp

end

end Gzip

/-! ### Dumps -/

theorem FileTree.openDump_of_file {t : FileTree} {path : Path} {content : ByteArray}
    (h : t.openRead path = .ok (.file content)) :
    t.openDump path = .ok (Gzip.decodeFile content.data.toList).source := by
  rw [openDump, h]
  rfl

/-- **Dumps of several members.** A dump is put together from `n ≥ 1` files, each of which is one
gzip member.

* Its lines are those of any source that delivers the payloads of the members one after the other,
  in whatever chunks.
* If more bytes follow that begin no member, it breaks off behind these payloads: it gives the lines
  that have an ending and then one reading error, unless one of these lines is not UTF-8 and ends
  the reading before. -/
theorem concatenated_members_read (t : FileTree) (path : Path) (content : ByteArray)
    (files payloads : List (List UInt8)) (hopen : t.openRead path = .ok (.file content))
    (hne : files ≠ []) (hmembers : List.Forall₂ Gzip.IsMember files payloads) :
    (content.data.toList = files.flatten → ∃ dump, t.openDump path = .ok dump ∧
      ∀ s : Source, s.events = payloads.flatten.map .byte → dump.lines = s.lines) ∧
    ∀ tail : List UInt8, content.data.toList = files.flatten ++ tail → Gzip.BeginsNoMember tail →
      ∃ dump texts c, t.openDump path = .ok dump ∧
        dump.BreaksOff payloads.flatten (.gzip (Gzip.noMemberFault tail)) texts c := by
  have hdump := FileTree.openDump_of_file hopen
  have hwhole := Gzip.Decoded.events_source ⟨payloads, none⟩
  rw [Option.map_none, Option.toList_none, List.append_nil] at hwhole
  constructor
  · intro hcontent
    rw [hcontent, Gzip.decodeFile_members hmembers hne] at hdump
    refine ⟨_, hdump, fun s hs ↦ ?_⟩
    rw [Source.lines_eq_items, Source.lines_eq_items, hwhole, hs]
  · intro tail hcontent htail
    rw [hcontent, Gzip.decodeFile_members_append hmembers hne htail] at hdump
    have hcut := Gzip.Decoded.events_source ⟨payloads ++ [[]], some (Gzip.noMemberFault tail)⟩
    rw [List.flatten_append, List.flatten_singleton, List.append_nil] at hcut
    obtain ⟨texts, c, -, hbreak, -⟩ :=
      Source.exists_common_lines List.prefix_rfl hwhole hcut
    exact ⟨_, texts, c, hdump, hbreak⟩

/-- Three members, two of them with a stored block and one with a name and a coded block. -/
def spanningFiles : List (List UInt8) :=
  [[31, 139, 8, 0, 0, 0, 0, 0, 0, 255, 1, 2, 0, 253, 255, 97, 195, 19, 219, 82, 63, 2, 0, 0, 0],
    [31, 139, 8, 8, 0, 0, 0, 0, 0, 255, 120, 0, 91, 201, 11, 0, 226, 105, 173, 64, 2, 0, 0, 0],
    [31, 139, 8, 0, 0, 0, 0, 0, 0, 255, 1, 2, 0, 253, 255, 10, 98, 1, 250, 138, 24, 2, 0, 0, 0]]

/-- Their payloads: the first ends inside a character, the second between a carriage return and its
line feed. -/
def spanningPayloads : List (List UInt8) :=
  [[0x61, 0xC3], [0xA9, carriageReturn], [lineFeed, 0x62]]

theorem forall₂_isMember_spanning : List.Forall₂ Gzip.IsMember spanningFiles spanningPayloads :=
  .cons (by decide +kernel) (.cons (by decide +kernel) (.cons (by decide +kernel) .nil))

/-- The lines of these members, and of the same with the beginning of a header behind them. -/
theorem concatenated_members_read_spanning :
    (∃ dump, (peopleTree spanningFiles.flatten.toByteArray).openDump (.ofString "dump.gz") =
        .ok dump ∧ dump.lines = [.ok "aé", .ok "b"]) ∧
      ∃ dump texts c, (peopleTree (spanningFiles.flatten ++ [31, 139, 8]).toByteArray).openDump
          (.ofString "dump.gz") = .ok dump ∧
        dump.BreaksOff spanningPayloads.flatten (.gzip .unexpectedEnd) texts c ∧
        dump.lines = [.ok "aé", .error (.inputRead 2 (.gzip .unexpectedEnd))] := by
  have hopen (content : ByteArray) :
      (peopleTree content).openRead (.ofString "dump.gz") = .ok (.file content) := by cbv
  have hne : spanningFiles ≠ [] := by decide
  constructor
  · obtain ⟨dump, hdump, hlines⟩ := (concatenated_members_read _ _ _ _ _ (hopen _) hne
      forall₂_isMember_spanning).1 List.toList_data_toByteArray
    refine ⟨dump, hdump, (hlines [.chunk "aé\r\nb".toUTF8.data.toList] ?_).trans ?_⟩
    · decide +kernel
    · decide +kernel
  · obtain ⟨dump, texts, c, hdump, hbreak⟩ := (concatenated_members_read _ _ _ _ _ (hopen _) hne
      forall₂_isMember_spanning).2 [31, 139, 8] List.toList_data_toByteArray (Or.inl (by decide))
    refine ⟨dump, texts, c, hdump, hbreak, ?_⟩
    rw [Except.ok.inj (hdump.symm.trans (FileTree.openDump_of_file (hopen _)))]
    decide +kernel

end PersonRelations
