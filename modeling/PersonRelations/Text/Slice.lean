/-!
# Parts of a text

Three ways to take a text apart.

* `trim p` removes the longest run of characters with property `p` from each end of a text and
  nothing from its inside (`exists_eq_append_trim`).
* `cut c n s` cuts the text `s` at its first `n` occurrences of the character `c`, or at all of them
  if there are fewer. The pieces, joined by `c`, give `s` back (`intercalate_cut`).
* `takeBytes` and `dropBytes` cut a text at a place that is counted in the bytes of its UTF-8 form.
  A character that the place falls into goes to neither part.
-/

namespace PersonRelations.Text

/-! ### Trimming both ends -/

/-- Removes the longest trailing run of characters with property `p`. -/
def trimEnd (p : Char → Bool) (s : List Char) : List Char :=
  (s.reverse.dropWhile p).reverse

/-- Removes the longest leading and the longest trailing run of characters with property `p`. -/
def trim (p : Char → Bool) (s : List Char) : List Char :=
  trimEnd p (s.dropWhile p)

/-- A trimmed text is what stands between two runs of trimmed characters. -/
theorem exists_eq_append_trim (p : Char → Bool) (s : List Char) :
    ∃ a b, s = a ++ trim p s ++ b ∧ (∀ c ∈ a, p c) ∧ ∀ c ∈ b, p c := by
  refine ⟨s.takeWhile p, ((s.dropWhile p).reverse.takeWhile p).reverse, ?_, ?_, ?_⟩
  · rw [List.append_assoc, trim, trimEnd, ← List.reverse_append,
      List.takeWhile_append_dropWhile, List.reverse_reverse, List.takeWhile_append_dropWhile]
  · intro c hc
    exact List.all_eq_true.1 List.all_takeWhile c hc
  · intro c hc
    exact List.all_eq_true.1 List.all_takeWhile c (List.mem_reverse.1 hc)

/-! ### Cutting at the first separators -/

/-- The pieces of `s` between its first `n` occurrences of `c`, the last piece being all the
rest. -/
def cut (c : Char) : Nat → List Char → List (List Char)
  | 0, s => [s]
  | n + 1, s =>
    match s.dropWhile (· != c) with
    | [] => [s]
    | _ :: rest => s.takeWhile (· != c) :: cut c n rest

theorem cut_ne_nil (c : Char) (n : Nat) (s : List Char) : cut c n s ≠ [] := by
  cases n with
  | zero => simp [cut]
  | succ n =>
    rw [cut]
    split <;> simp

/-- Nothing is lost: the pieces joined by the separator are the text. -/
theorem intercalate_cut (c : Char) (n : Nat) (s : List Char) :
    [c].intercalate (cut c n s) = s := by
  induction n generalizing s with
  | zero => simp [cut, List.intercalate]
  | succ n ih =>
    rw [cut]
    split
    · simp [List.intercalate]
    · rename_i d rest hrest
      have hd : d = c := by
        have := List.head_dropWhile_not (· != c) (l := s) (by simp [hrest])
        simpa [hrest] using this
      obtain ⟨p, ps, hp⟩ := List.exists_cons_of_ne_nil (cut_ne_nil c n rest)
      have := ih rest
      rw [hp] at this ⊢
      have hs : s = s.takeWhile (· != c) ++ c :: rest := by
        rw [hd] at hrest
        rw [← hrest, List.takeWhile_append_dropWhile]
      conv => rhs; rw [hs]
      simpa [List.intercalate] using this

/-! ### Places in bytes -/

/-- The number of bytes of the characters. -/
def byteLength (cs : List Char) : Nat :=
  cs.foldr (fun c n ↦ c.utf8Size + n) 0

/-- The characters before a place. -/
def takeBytes : Nat → List Char → List Char
  | _, [] => []
  | n, c :: cs => if c.utf8Size ≤ n then c :: takeBytes (n - c.utf8Size) cs else []

/-- The characters behind a place. -/
def dropBytes : Nat → List Char → List Char
  | _, [] => []
  | n, c :: cs => if n = 0 then c :: cs else dropBytes (n - c.utf8Size) cs

end PersonRelations.Text
