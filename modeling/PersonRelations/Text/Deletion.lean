/-!
# Deleting every occurrence of a word

`deleteAll w s` removes the occurrences of the non-empty word `w` from the text `s`, from left to
right and without overlap: after a removed occurrence the search goes on behind it, and what the
removal brings together is not looked at again. The empty word deletes nothing.
-/

namespace PersonRelations.Text

/-- Deletes the word `w` from `s`; `kept` is what stands before `s`, in reverse. -/
def deleteAllFrom (w kept : List Char) (s : List Char) : List Char :=
  match s with
  | [] => kept.reverse
  | c :: rest =>
    if w.isEmpty then kept.reverse ++ c :: rest
    else if w.isPrefixOf (c :: rest) then deleteAllFrom w kept ((c :: rest).drop w.length)
    else deleteAllFrom w (c :: kept) rest
termination_by s.length
decreasing_by
  · have : 0 < w.length := List.length_pos_iff.2 (by simpa using ‹¬w.isEmpty = true›)
    simp only [List.length_drop, List.length_cons]
    omega
  · simp

/-- The text `s` without the occurrences of the word `w`, taken leftmost first and without
overlap. -/
def deleteAll (w s : List Char) : List Char :=
  deleteAllFrom w [] s

/-- Deletes each word in turn from what the words before it left. -/
def deleteWords (words : List (List Char)) (s : List Char) : List Char :=
  words.foldl (fun t w ↦ deleteAll w t) s

theorem deleteAllFrom_eq (w kept s : List Char) :
    deleteAllFrom w kept s = kept.reverse ++ deleteAll w s := by
  rw [deleteAll]
  induction h : s.length using Nat.strongRecOn generalizing kept s with
  | ind n ih =>
    subst h
    match s with
    | [] => simp [deleteAllFrom]
    | c :: rest =>
      rw [deleteAllFrom, deleteAllFrom]
      split
      · simp
      split
      · rename_i hw _
        have : 0 < w.length := List.length_pos_iff.2 (by simpa using hw)
        exact ih _ (by simp only [List.length_drop, List.length_cons]; omega) _ _ rfl
      · rw [ih _ (by simp) (c :: kept) _ rfl, ih _ (by simp) [c] _ rfl]
        simp

/-- An occurrence at the front goes, and the search continues behind it. -/
theorem deleteAll_append_self {w : List Char} (hw : w ≠ []) (s : List Char) :
    deleteAll w (w ++ s) = deleteAll w s := by
  obtain ⟨c, w', rfl⟩ := List.exists_cons_of_ne_nil hw
  rw [deleteAll, List.cons_append, deleteAllFrom, if_neg (by simp), if_pos (by simp), deleteAll]
  simp

/-- A character at which no occurrence begins stays. -/
theorem deleteAll_cons_of_no_occurrence {w : List Char} {c : Char} {s : List Char}
    (h : ¬w <+: c :: s) : deleteAll w (c :: s) = c :: deleteAll w s := by
  have hw : ¬w.isEmpty = true := fun e ↦ h (by simp [List.isEmpty_iff.1 e])
  rw [deleteAll, deleteAllFrom, if_neg hw, if_neg (by simpa using h), deleteAllFrom_eq]
  simp

@[simp]
theorem deleteAll_empty (s : List Char) : deleteAll [] s = s := by
  cases s <;> simp [deleteAll, deleteAllFrom]

end PersonRelations.Text
