import Mathlib
import PersonRelations.Output.RelationFiles

/-!
# Writing to the full device

The full device takes no byte. What is written to it is accepted as long as the buffer has room for
it and then stays there, so that the buffer's capacity, which nothing shows where a file takes the
data, decides which piece is refused.

* `BufferedFile.Overruns` names the pieces of which one is refused, by their sizes alone.
* `BufferedFile.writeAll_full_of_not_overruns`, `BufferedFile.writeAll_full_of_overruns`: pieces are
  all kept in the buffer, or one of them is refused, and these are the two cases of `Overruns`.
* `BufferedFile.flush_full`: a flush is refused exactly if there is something to flush, and changes
  nothing.

The tree is the same after all of this: refused data leave no trace in it.
-/

namespace PersonRelations

namespace BufferedFile

variable {t : FileTree} {f : BufferedFile} {given : Nat} {piece : ByteArray}
  {pieces : List ByteArray}

/-- One of the pieces, coming behind `given` bytes, brings the total above the capacity or is as
large as the buffer itself. -/
def Overruns (given : Nat) (pieces : List ByteArray) : Prop :=
  ∃ before piece after, pieces = before ++ piece :: after ∧
    (capacity < given + (before.map ByteArray.size).sum + piece.size ∨ capacity ≤ piece.size)

theorem not_overruns_nil (given : Nat) : ¬Overruns given [] := by
  rintro ⟨before, piece, after, heq, -⟩
  cases before <;> cases heq

/-- The first piece overruns, or one of the others does behind it. -/
theorem overruns_cons :
    Overruns given (piece :: pieces) ↔
      (capacity < given + piece.size ∨ capacity ≤ piece.size) ∨
        Overruns (given + piece.size) pieces := by
  constructor
  · rintro ⟨before, p, after, heq, hp⟩
    cases before with
    | nil =>
      cases heq
      exact Or.inl hp
    | cons b before =>
      cases heq
      refine Or.inr ⟨before, p, after, rfl, ?_⟩
      rwa [Nat.add_assoc given, ← List.sum_cons, ← List.map_cons]
  · rintro (hp | ⟨before, p, after, rfl, hp⟩)
    · exact ⟨[], piece, pieces, rfl, hp⟩
    · refine ⟨piece :: before, p, after, rfl, ?_⟩
      rwa [List.map_cons, List.sum_cons, ← Nat.add_assoc given]

instance decidableOverruns : (given : Nat) → (pieces : List ByteArray) →
    Decidable (Overruns given pieces)
  | given, [] => .isFalse (not_overruns_nil given)
  | given, piece :: pieces =>
    have := decidableOverruns (given + piece.size) pieces
    decidable_of_iff' _ overruns_cons

/-- Nothing is all that the full device takes. -/
theorem tree_write_full (t : FileTree) (data : ByteArray) :
    t.write (.device .full) data =
      if data = .empty then .ok (t, .device .full) else .error .noSpace := by
  rw [FileTree.write]
  simp [ByteArray.isEmpty, ByteArray.size_eq_zero_iff]

/-- **A flush** is refused if there is something to flush. -/
theorem flush_full (h : f.handle = .device .full) :
    f.flush t = (t, f, if f.buffer = .empty then none else some .noSpace) := by
  obtain ⟨handle, buffer⟩ := f
  obtain rfl : handle = .device .full := h
  rw [flush, tree_write_full]
  by_cases hempty : buffer = .empty
  · simp [hempty]
  · simp [hempty]

/-- **A piece** is refused if it brings the buffer above its capacity or is as large as the buffer,
and is kept in the buffer otherwise. -/
theorem write_full (h : f.handle = .device .full) (piece : ByteArray) :
    f.write t piece =
      if capacity < f.buffer.size + piece.size ∨ capacity ≤ piece.size then (t, f, some .noSpace)
      else (t, { f with buffer := f.buffer ++ piece }, none) := by
  -- a piece that goes past the buffer has bytes, so the device refuses it
  have hlarge : capacity ≤ piece.size → t.write f.handle piece = .error .noSpace := by
    intro hsize
    have hne : piece ≠ .empty := by
      rintro rfl
      exact absurd hsize (by decide)
    rw [h, tree_write_full, if_neg hne]
  by_cases hroom : capacity < f.buffer.size + piece.size
  · rw [if_pos (Or.inl hroom), write, makeRoom, if_pos hroom, flush_full h]
    by_cases hempty : f.buffer = .empty
    · -- the flush of an empty buffer succeeds, and the piece alone is too large
      have hsize : capacity ≤ piece.size := by
        rw [hempty, ByteArray.size_empty] at hroom
        omega
      simp [hempty, hsize, hlarge hsize]
    · simp [hempty]
  · by_cases hsize : capacity ≤ piece.size
    · simp [write, makeRoom, hroom, hsize, hlarge hsize]
    · simp [write, makeRoom, hroom, hsize]

/-- **Pieces that fit** stay in the buffer. -/
theorem writeAll_full_of_not_overruns (h : f.handle = .device .full)
    (hfit : ¬Overruns f.buffer.size pieces) :
    f.writeAll t pieces = (t, { f with buffer := pieces.foldl (· ++ ·) f.buffer }, none) := by
  induction pieces generalizing f with
  | nil => rfl
  | cons piece pieces ih =>
    rw [overruns_cons, not_or] at hfit
    obtain ⟨hpiece, hpieces⟩ := hfit
    rw [← ByteArray.size_append] at hpieces
    rw [writeAll, write_full h, if_neg hpiece]
    exact ih h hpieces

/-- **Pieces that do not fit**: one of them is refused, and the device is still there. -/
theorem writeAll_full_of_overruns (h : f.handle = .device .full)
    (hover : Overruns f.buffer.size pieces) :
    ∃ buffer, f.writeAll t pieces = (t, ⟨.device .full, buffer⟩, some .noSpace) := by
  induction pieces generalizing f with
  | nil => exact absurd hover (not_overruns_nil _)
  | cons piece pieces ih =>
    rw [writeAll, write_full h]
    by_cases hpiece : capacity < f.buffer.size + piece.size ∨ capacity ≤ piece.size
    · rw [if_pos hpiece]
      refine ⟨f.buffer, ?_⟩
      rw [← h]
    · have hlater := (overruns_cons.1 hover).resolve_left hpiece
      rw [← ByteArray.size_append] at hlater
      rw [if_neg hpiece]
      exact ih h hlater

end BufferedFile

end PersonRelations
