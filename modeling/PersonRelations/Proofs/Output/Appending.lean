import PersonRelations.Output.RelationFiles
import PersonRelations.Proofs.Files.Resolution

/-!
# Writing through a buffer

What becomes of data that are written to a buffered file.

* Whatever the handle stands for, the tree is only extended, and the handle stays good
  (`BufferedFile.Kept`). This holds of devices, and of files that are written through two handles at
  once.
* The buffer stays within its capacity (`BufferedFile.size_buffer_writeAll_le`).
* A file that is written through one handle holds what was written to it (`BufferedFile.Holds`): its
  content and then the buffer, whatever part of the data has reached the file. Writing appends and
  never fails (`BufferedFile.appended_writeAll`), and a flush moves the data to the file
  (`BufferedFile.appended_flush`).

When data go to the file depends on the buffer's capacity, and what the file and the buffer hold
together does not.
-/

namespace PersonRelations

namespace FileTree

variable {t t' : FileTree} {loc : Location} {h h' : Handle} {c data : ByteArray}

/-- What the handle stands for is in the tree. -/
def Backs (t : FileTree) : Handle → Prop
  | .file loc _ => ∃ c, t.get? loc = some (.file c)
  | .device _ => True

theorem Backs.mono (hb : t.Backs h) (hext : t.Extends t') : t'.Backs h := by
  cases h with
  | file loc offset =>
    obtain ⟨c, hc⟩ := hb
    exact ⟨_, hext.get?_file hc⟩
  | device d => exact trivial

theorem Opened.backs {path : Path} (ho : t.Opened path h) : t.Backs h := by
  cases h with
  | file loc offset => exact ⟨_, get?_of_locate ho.2⟩
  | device d => exact trivial

/-- **A write** changes the content of a file at most. -/
theorem extends_of_write (hb : t.Backs h) (hw : t.write h data = .ok (t', h')) :
    t.Extends t' ∧ t'.Backs h' := by
  unfold write at hw
  split at hw
  · cases hw
    exact ⟨Extends.refl t, hb⟩
  · split at hw
    · rename_i loc offset
      cases hw
      have htakes : t.TakesFile loc := Or.inr hb
      exact ⟨Extends.put htakes _, _, get?_put_self t htakes.ne_nil _⟩
    · cases hw
      exact ⟨Extends.refl t, trivial⟩
    · cases hw

/-- **A write at the end of a file** appends to it and to nothing else. -/
theorem write_at_end (hc : t.get? loc = some (.file c)) (data : ByteArray) :
    ∃ t', t.write (.file loc c.size) data = .ok (t', .file loc (c ++ data).size) ∧
      t'.get? loc = some (.file (c ++ data)) ∧ ∀ m, m ≠ loc → t'.get? m = t.get? m := by
  rw [write]
  split
  · -- no data: the file is not touched
    rename_i hempty
    have hdata : data = .empty := by
      simpa [ByteArray.isEmpty, ByteArray.size_eq_zero_iff] using hempty
    subst hdata
    rw [ByteArray.append_empty]
    exact ⟨t, rfl, hc, fun _ _ ↦ rfl⟩
  · have htakes : t.TakesFile loc := Or.inr ⟨c, hc⟩
    rw [ByteArray.size_append]
    refine ⟨_, rfl, ?_, fun m hm ↦ get?_put_of_ne t hm _⟩
    rw [get?_put_self t htakes.ne_nil, content_of_get? hc, overwrite_size]

end FileTree

namespace BufferedFile

variable {t : FileTree} {f : BufferedFile} {loc : Location} {data : ByteArray}

/-! ### Whatever the handle stands for -/

/-- What an operation leaves: an extended tree, and a handle to something in it. -/
structure Kept (t : FileTree) (x : FileTree × BufferedFile × Option FileError) : Prop where
  extends_tree : t.Extends x.1
  backs : x.1.Backs x.2.1.handle

theorem Kept.of_backs (hb : t.Backs f.handle) (e : Option FileError) : Kept t (t, f, e) :=
  ⟨FileTree.Extends.refl t, hb⟩

/-- Operations come one after the other. -/
theorem Kept.trans {x y : FileTree × BufferedFile × Option FileError} (hx : Kept t x)
    (hy : Kept x.1 y) : Kept t y :=
  ⟨hx.extends_tree.trans hy.extends_tree, hy.backs⟩

theorem kept_flush (hb : t.Backs f.handle) : Kept t (f.flush t) := by
  rw [flush]
  split
  · rename_i t' h' hw
    obtain ⟨hext, hb'⟩ := FileTree.extends_of_write hb hw
    exact ⟨hext, hb'⟩
  · exact Kept.of_backs hb _

theorem kept_makeRoom (hb : t.Backs f.handle) (size : Nat) : Kept t (f.makeRoom t size) := by
  rw [makeRoom]
  split
  · exact kept_flush hb
  · exact Kept.of_backs hb _

theorem kept_write (hb : t.Backs f.handle) (piece : ByteArray) : Kept t (f.write t piece) := by
  have hroom := kept_makeRoom hb piece.size
  rw [write]
  split
  · rename_i t₁ f₁ e heq
    rwa [heq] at hroom
  · rename_i t₁ f₁ heq
    rw [heq] at hroom
    refine hroom.trans ?_
    split
    · split
      · rename_i t₂ h₂ hw
        obtain ⟨hext, hb'⟩ := FileTree.extends_of_write hroom.backs hw
        exact ⟨hext, hb'⟩
      · exact Kept.of_backs hroom.backs _
    · exact ⟨FileTree.Extends.refl t₁, hroom.backs⟩

theorem kept_writeAll (hb : t.Backs f.handle) (pieces : List ByteArray) :
    Kept t (f.writeAll t pieces) := by
  induction pieces generalizing t f with
  | nil => exact Kept.of_backs hb none
  | cons piece pieces ih =>
    have hfirst := kept_write hb piece
    rw [writeAll]
    split
    · rename_i t₁ f₁ e heq
      rwa [heq] at hfirst
    · rename_i t₁ f₁ heq
      rw [heq] at hfirst
      exact hfirst.trans (ih hfirst.backs)

/-! ### The buffer -/

/-- A flush empties the buffer or, if it is refused, leaves it. -/
theorem buffer_flush_cases (f : BufferedFile) (t : FileTree) :
    (f.flush t).2.1.buffer = .empty ∧ (f.flush t).2.2 = none ∨
      (f.flush t).2.1.buffer = f.buffer ∧ (f.flush t).2.2 ≠ none := by
  rw [flush]
  split
  · exact Or.inl ⟨rfl, rfl⟩
  · exact Or.inr ⟨rfl, by simp⟩

/-- Room is made without exceeding the capacity, and if it is made, a piece that is smaller than the
buffer fits. -/
theorem size_buffer_makeRoom_le (hf : f.buffer.size ≤ capacity) (t : FileTree) (size : Nat) :
    (f.makeRoom t size).2.1.buffer.size ≤ capacity ∧
      ((f.makeRoom t size).2.2 = none → size ≤ capacity →
        (f.makeRoom t size).2.1.buffer.size + size ≤ capacity) := by
  rw [makeRoom]
  split
  · rcases buffer_flush_cases f t with ⟨hempty, -⟩ | ⟨hsame, herror⟩
    · rw [hempty, ByteArray.size_empty]
      omega
    · rw [hsame]
      exact ⟨hf, fun hnone ↦ absurd hnone herror⟩
  · rename_i hroom
    exact ⟨hf, fun _ _ ↦ Nat.le_of_not_lt hroom⟩

theorem size_buffer_write_le (hf : f.buffer.size ≤ capacity) (t : FileTree) (piece : ByteArray) :
    (f.write t piece).2.1.buffer.size ≤ capacity := by
  obtain ⟨hle, hfits⟩ := size_buffer_makeRoom_le hf t piece.size
  rw [write]
  rcases hmade : f.makeRoom t piece.size with ⟨t₁, f₁, _ | e⟩
  · rw [hmade] at hle hfits
    by_cases hlarge : capacity ≤ piece.size
    · -- a piece of full size goes past the buffer
      simp only [if_pos hlarge]
      split <;> exact hle
    · simp only [if_neg hlarge, ByteArray.size_append]
      exact hfits rfl (by omega)
  · rw [hmade] at hle
    exact hle

/-- **The buffer** never holds more than its capacity, whatever the handle stands for. -/
theorem size_buffer_writeAll_le (hf : f.buffer.size ≤ capacity) (t : FileTree)
    (pieces : List ByteArray) : (f.writeAll t pieces).2.1.buffer.size ≤ capacity := by
  induction pieces generalizing f t with
  | nil => exact hf
  | cons piece pieces ih =>
    have hfirst := size_buffer_write_le hf t piece
    rw [writeAll]
    rcases hpiece : f.write t piece with ⟨t₁, f₁, _ | e⟩
    · rw [hpiece] at hfirst
      exact ih hfirst t₁
    · rw [hpiece] at hfirst
      exact hfirst

/-! ### A file with one handle -/

/-- **The file holds the data**: what it contains, and then what the buffer has; the handle stands
at its end. -/
structure Holds (f : BufferedFile) (t : FileTree) (loc : Location) (data : ByteArray) : Prop where
  get?_eq : t.get? loc = some (.file (t.content loc))
  handle_eq : f.handle = .file loc (t.content loc).size
  append_eq : t.content loc ++ f.buffer = data

/-- What an operation leaves that went well: a file that holds the data, and every other file as it
was. -/
structure Appended (t : FileTree) (loc : Location) (data : ByteArray)
    (x : FileTree × BufferedFile × Option FileError) : Prop where
  error_eq : x.2.2 = none
  holds : x.2.1.Holds x.1 loc data
  get?_of_ne : ∀ m, m ≠ loc → x.1.get? m = t.get? m

theorem Holds.of_get? {c : ByteArray} (hc : t.get? loc = some (.file c)) (buffer : ByteArray) :
    Holds ⟨.file loc c.size, buffer⟩ t loc (c ++ buffer) := by
  have hcontent := FileTree.content_of_get? hc
  constructor <;> simp [hcontent, hc]

/-- A file holds its data as long as nothing else changes it. -/
theorem Holds.congr {t' : FileTree} (h : f.Holds t loc data) (heq : t'.get? loc = t.get? loc) :
    f.Holds t' loc data := by
  have hcontent : t'.content loc = t.content loc := by rw [FileTree.content, heq, FileTree.content]
  constructor
  · rw [heq, hcontent, h.get?_eq]
  · rw [hcontent, h.handle_eq]
  · rw [hcontent, h.append_eq]

theorem Appended.of_holds (h : f.Holds t loc data) : Appended t loc data (t, f, none) :=
  ⟨rfl, h, fun _ _ ↦ rfl⟩

theorem Appended.trans {x y : FileTree × BufferedFile × Option FileError} {data' : ByteArray}
    (hx : Appended t loc data x) (hy : Appended x.1 loc data' y) : Appended t loc data' y :=
  ⟨hy.error_eq, hy.holds, fun m hm ↦ (hy.get?_of_ne m hm).trans (hx.get?_of_ne m hm)⟩

/-- Data handed to the file itself come behind what it contains. -/
theorem exists_write (h : f.Holds t loc data) (piece : ByteArray) :
    ∃ t' h', t.write f.handle piece = .ok (t', h') ∧
      ∀ buffer, Appended t loc (t.content loc ++ piece ++ buffer) (t', ⟨h', buffer⟩, none) := by
  obtain ⟨t', hw, hc, hframe⟩ := FileTree.write_at_end h.get?_eq piece
  refine ⟨t', _, ?_, fun buffer ↦ ⟨rfl, Holds.of_get? hc buffer, hframe⟩⟩
  rw [h.handle_eq, hw]

/-- **A flush** moves the data to the file and leaves the buffer empty. -/
theorem appended_flush (h : f.Holds t loc data) :
    Appended t loc data (f.flush t) ∧ (f.flush t).2.1.buffer = .empty := by
  obtain ⟨t', h', hw, happ⟩ := exists_write h f.buffer
  rw [flush, hw]
  refine ⟨?_, rfl⟩
  have := happ .empty
  rwa [h.append_eq, ByteArray.append_empty] at this

/-- Before a piece that is as large as the buffer, the buffer is emptied. -/
theorem appended_makeRoom (h : f.Holds t loc data) (size : Nat) :
    Appended t loc data (f.makeRoom t size) ∧
      (capacity ≤ size → (f.makeRoom t size).2.1.buffer = .empty) := by
  rw [makeRoom]
  split
  · exact ⟨(appended_flush h).1, fun _ ↦ (appended_flush h).2⟩
  · -- there is room without a flush, so beside a piece of full size nothing was in the buffer
    refine ⟨Appended.of_holds h, fun hsize ↦ ?_⟩
    have hzero : f.buffer.size = 0 := by omega
    exact ByteArray.size_eq_zero_iff.1 hzero

/-- **Writing a piece** appends it, through the buffer or past it. -/
theorem appended_write (h : f.Holds t loc data) (piece : ByteArray) :
    Appended t loc (data ++ piece) (f.write t piece) := by
  obtain ⟨hroom, hempty⟩ := appended_makeRoom h piece.size
  rcases hmade : f.makeRoom t piece.size with ⟨t₁, f₁, e⟩
  rw [hmade] at hroom hempty
  obtain rfl : e = none := hroom.error_eq
  have hheld : f₁.Holds t₁ loc data := hroom.holds
  refine hroom.trans ?_
  simp only [write, hmade]
  split
  · -- a piece that goes past the buffer: the buffer is empty, so nothing is overtaken
    rename_i hlarge
    obtain ⟨t₂, h₂, hw, happ⟩ := exists_write hheld piece
    have hbuffer : f₁.buffer = .empty := hempty hlarge
    have hdata : t₁.content loc = data := by
      rw [← hheld.append_eq, hbuffer, ByteArray.append_empty]
    have hpast := happ .empty
    rw [hdata, ByteArray.append_empty] at hpast
    rw [hw, hbuffer]
    exact hpast
  · refine ⟨rfl, ⟨hheld.get?_eq, hheld.handle_eq, ?_⟩, fun _ _ ↦ rfl⟩
    rw [← hheld.append_eq, ByteArray.append_assoc]

theorem appended_writeAll (h : f.Holds t loc data) (pieces : List ByteArray) :
    Appended t loc (pieces.foldl (· ++ ·) data) (f.writeAll t pieces) := by
  induction pieces generalizing t f data with
  | nil => exact Appended.of_holds h
  | cons piece pieces ih =>
    have hfirst := appended_write h piece
    rw [writeAll]
    rcases hpiece : f.write t piece with ⟨t₁, f₁, e⟩
    rw [hpiece] at hfirst
    obtain rfl : e = none := hfirst.error_eq
    exact hfirst.trans (ih hfirst.holds)

end BufferedFile

end PersonRelations
