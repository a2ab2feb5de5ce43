import PersonRelations.Proofs.Extraction.Pass

/-!
# What becomes of a character

How often a character occurs in the fields of a statement, against how often it occurs in the line.
Trimming takes away margin characters only (`Text.count_trim`), cutting takes away the spaces
between the fields (`Text.sum_count_cut`), and deleting a word takes away the word's characters only
(`Text.count_deleteAll`). Nothing else happens to a line, and nothing is ever added.

So a character that is no margin of a field, no space and in no deleted word occurs in the
normalised fields together exactly as often as in the trimmed line (`Statement.sum_count_fields`).
-/

namespace PersonRelations

namespace Text

theorem count_eq_zero_of_all {p : Char → Bool} {c : Char} (hc : p c = false) {s : List Char}
    (h : ∀ d ∈ s, p d = true) : s.count c = 0 := by
  refine List.count_eq_zero.2 fun hmem ↦ ?_
  rw [h c hmem] at hc
  cases hc

/-- Trimming keeps every character that is no margin. -/
theorem count_trim {p : Char → Bool} {c : Char} (hc : p c = false) (s : List Char) :
    (trim p s).count c = s.count c := by
  obtain ⟨a, b, hs, ha, hb⟩ := exists_eq_append_trim p s
  calc (trim p s).count c
      = a.count c + (trim p s).count c + b.count c := by
        rw [count_eq_zero_of_all hc ha, count_eq_zero_of_all hc hb, Nat.zero_add, Nat.add_zero]
    _ = (a ++ trim p s ++ b).count c := by rw [List.count_append, List.count_append]
    _ = s.count c := by rw [← hs]

/-- The cases of a deletion: at the end of the text, at an occurrence, at any other character. -/
theorem deleteAll_cases {w : List Char} (hw : w ≠ []) (s : List Char) :
    s = [] ∨ (∃ t, s = w ++ t ∧ deleteAll w s = deleteAll w t) ∨
      ∃ c t, s = c :: t ∧ deleteAll w s = c :: deleteAll w t := by
  cases s with
  | nil => exact Or.inl rfl
  | cons c t =>
    by_cases h : w <+: c :: t
    · obtain ⟨u, hu⟩ := h
      exact Or.inr (Or.inl ⟨u, hu.symm, by rw [← hu, deleteAll_append_self hw]⟩)
    · exact Or.inr (Or.inr ⟨c, t, rfl, deleteAll_cons_of_no_occurrence h⟩)

/-- A deletion takes characters away and moves none. -/
theorem deleteAll_sublist (w s : List Char) : (deleteAll w s).Sublist s := by
  by_cases hw : w = []
  · have heq : deleteAll w s = s := by rw [hw, deleteAll_empty]
    exact heq.symm ▸ List.Sublist.refl s
  induction h : s.length using Nat.strongRecOn generalizing s with
  | ind n ih =>
  subst h
  rcases deleteAll_cases hw s with rfl | ⟨t, rfl, ht⟩ | ⟨c, t, rfl, ht⟩
  · simp [deleteAll, deleteAllFrom]
  · have hpos := List.length_pos_iff.2 hw
    rw [ht]
    exact (ih t.length (by rw [List.length_append]; omega) t rfl).trans
      (List.sublist_append_right w t)
  · rw [ht]
    exact (ih t.length (by simp) t rfl).cons_cons c

/-- A deletion keeps every character that is not in the word. -/
theorem count_deleteAll {w : List Char} {c : Char} (hc : c ∉ w) (s : List Char) :
    (deleteAll w s).count c = s.count c := by
  by_cases hw : w = []
  · rw [hw, deleteAll_empty]
  induction h : s.length using Nat.strongRecOn generalizing s with
  | ind n ih =>
  subst h
  rcases deleteAll_cases hw s with rfl | ⟨t, rfl, ht⟩ | ⟨d, t, rfl, ht⟩
  · simp [deleteAll, deleteAllFrom]
  · have hpos := List.length_pos_iff.2 hw
    rw [ht, ih t.length (by rw [List.length_append]; omega) t rfl, List.count_append,
      List.count_eq_zero.2 hc, Nat.zero_add]
  · rw [ht, List.count_cons, List.count_cons, ih t.length (by simp) t rfl]

theorem count_deleteWords {words : List (List Char)} {c : Char} (hc : ∀ w ∈ words, c ∉ w)
    (s : List Char) : (deleteWords words s).count c = s.count c := by
  induction words generalizing s with
  | nil => rfl
  | cons w words ih =>
    have hrec := ih (fun v hv ↦ hc v (List.mem_cons_of_mem w hv)) (deleteAll w s)
    exact hrec.trans (count_deleteAll (hc w List.mem_cons_self) s)

/-- Deleting words takes characters away and moves none. -/
theorem deleteWords_sublist (words : List (List Char)) (s : List Char) :
    (deleteWords words s).Sublist s := by
  induction words generalizing s with
  | nil => exact List.Sublist.refl s
  | cons w words ih => exact (ih (deleteAll w s)).trans (deleteAll_sublist w s)

/-- Cutting keeps every character but the one that is cut at. -/
theorem sum_count_cut {c d : Char} (hd : d ≠ c) (n : Nat) (s : List Char) :
    ((cut c n s).map (List.count d)).sum = s.count d := by
  have hjoin : ∀ ls : List (List Char),
      ([c].intercalate ls).count d = (ls.map (List.count d)).sum := by
    intro ls
    induction ls with
    | nil => rfl
    | cons l ls ih =>
      cases ls with
      | nil => simp
      | cons l' ls =>
        have hc : [c].count d = 0 := List.count_eq_zero.2 (by simpa using hd)
        rw [List.intercalate_cons_cons, List.count_append, List.count_append, hc, ih]
        rfl
  rw [← hjoin, intercalate_cut]

end Text

namespace Statement

/-- A character that neither a field's margins nor the words have is kept in a field. -/
theorem count_normalize {words : List (List Char)} {c : Char} (hc : isFieldMargin c = false)
    (hw : ∀ w ∈ words, c ∉ w) (field : List Char) :
    (normalize words field).count c = field.count c := by
  rw [normalize, Text.count_deleteWords hw, Text.count_trim hc]

/-- Normalising takes characters away and moves none. -/
theorem normalize_sublist (words : List (List Char)) (field : List Char) :
    (normalize words field).Sublist field := by
  obtain ⟨a, b, hfield, -, -⟩ := Text.exists_eq_append_trim isFieldMargin field
  have htrim : Text.trim isFieldMargin field <:+: field := ⟨a, b, hfield.symm⟩
  exact (Text.deleteWords_sublist words _).trans htrim.sublist

/-- Whatever the words, a field gets no character that it did not have. -/
theorem count_normalize_le (words : List (List Char)) (c : Char) (field : List Char) :
    (normalize words field).count c ≤ field.count c :=
  (normalize_sublist words field).count_le c

theorem mem_of_mem_normalize {words : List (List Char)} {field : List Char} {c : Char}
    (h : c ∈ normalize words field) : c ∈ field :=
  (normalize_sublist words field).subset h

theorem sum_count_fields {c : Char} (hc : c ≠ ' ') (line : List Char) :
    ((fields line).map (List.count c)).sum = (Text.trim isLineMargin line).count c :=
  Text.sum_count_cut hc 2 _

end Statement

namespace StatementParser

theorem toList_normalize (p : StatementParser) (field : List Char) :
    (p.normalize field).toList =
      Statement.normalize (p.prefixes.map String.toList) field :=
  String.toList_ofList

/-- **The fields of a record**: its line has three, the first and the last of which are the record's
subject and object, and the one between them is the code of its relation. -/
theorem exists_fields_of_record? {p : StatementParser} {line : String} {x : Record}
    (h : p.record? line = some x) :
    ∃ a b c, Statement.fields line.toList = [a, b, c] ∧ x.subject = p.normalize a ∧
      x.relation.code = p.normalize b ∧ x.object = p.normalize c := by
  obtain ⟨t, hline, hr, hx⟩ := Extraction.exists_triple_of_record? h
  rw [parse] at hline
  have hcode := Relation.ofCode?_eq_some_iff.1 hr
  -- any other number of fields would have been malformed
  match hf : Statement.fields line.toList with
  | [a, b, c] =>
    rw [hf] at hline
    cases hline
    exact ⟨a, b, c, rfl, congrArg Record.subject hx, hcode, congrArg Record.object hx⟩
  | [] | [_] | [_, _] | _ :: _ :: _ :: _ :: _ =>
    rw [hf] at hline
    cases hline

end StatementParser

end PersonRelations
