import PersonRelations.Proofs.Statement.Splitting

/-!
# What normalising a field deletes

Normalising trims a field and then deletes the prefixes in turn, each by one scan from the left.
What comes out is said here without the scan.

* `Text.Dissects w us s`: the pieces `us` are what the occurrences of the word `w` separate in the
  text `s`, where the next occurrence is the first one behind the one before. A word that is not
  empty dissects every text in exactly one way (`Text.existsUnique_dissects`), and deleting it joins
  the pieces (`Text.Dissects.deleteAll_eq`).
* `Text.DeletedInTurn ws s t`: joining the pieces for each word in turn makes `t` of `s`.

Occurrences may overlap, also with themselves, and joining pieces may make new ones. Neither needs a
case of its own: an occurrence is looked for behind the last one only, and the next word meets the
text that the words before it have left. The main statement is `normalize_joins_dissections`.
-/

namespace PersonRelations

namespace Text

/-! ### Words that do not occur -/

/-- A word that does not occur deletes nothing. -/
theorem deleteAll_of_no_occurrence {w s : List Char} (h : ¬w <:+: s) : deleteAll w s = s := by
  induction s with
  | nil => simp [deleteAll, deleteAllFrom]
  | cons c s ih =>
    have hhere : ¬w <+: c :: s := fun hw ↦ h hw.isInfix
    have hlater : ¬w <:+: s := fun hw ↦ h (List.infix_cons hw)
    rw [deleteAll_cons_of_no_occurrence hhere, ih hlater]

theorem deleteWords_of_no_occurrence {words : List (List Char)} {s : List Char}
    (h : ∀ w ∈ words, ¬w <:+: s) : deleteWords words s = s := by
  induction words with
  | nil => rfl
  | cons w words ih =>
    have hw : deleteAll w s = s := deleteAll_of_no_occurrence (h w List.mem_cons_self)
    show deleteWords words (deleteAll w s) = s
    rw [hw]
    exact ih fun v hv ↦ h v (List.mem_cons_of_mem w hv)

/-- Empty words have no part in the deletion. -/
theorem deleteWords_filter_ne_nil (words : List (List Char)) (s : List Char) :
    deleteWords (words.filter (· ≠ [])) s = deleteWords words s := by
  induction words generalizing s with
  | nil => rfl
  | cons w words ih =>
    by_cases hw : w = []
    · have hs : deleteAll w s = s := by rw [hw, deleteAll_empty]
      rw [List.filter_cons_of_neg (by simpa using hw), ih]
      show _ = deleteWords words (deleteAll w s)
      rw [hs]
    · rw [List.filter_cons_of_pos (by simpa using hw)]
      exact ih (deleteAll w s)

/-! ### The first occurrence -/

/-- The places of the text at which the word occurs. -/
def occurrences (w s : List Char) : Set ℕ :=
  {n | w <+: s.drop n}

theorem isLeast_occurrences_zero {w s : List Char} (h : w <+: s) : IsLeast (occurrences w s) 0 :=
  ⟨h, fun n _ ↦ n.zero_le⟩

/-- Where no occurrence begins, the first one is looked for one place further. -/
theorem isLeast_occurrences_cons {w s : List Char} {c : Char} {n : ℕ} :
    IsLeast (occurrences w (c :: s)) (n + 1) ↔
      ¬w <+: c :: s ∧ IsLeast (occurrences w s) n := by
  constructor
  · rintro ⟨hmem, hleast⟩
    refine ⟨fun hhere ↦ ?_, hmem, fun k hk ↦ ?_⟩
    · exact absurd (hleast (show (0 : ℕ) ∈ occurrences w (c :: s) from hhere)) (by omega)
    · have hle : n + 1 ≤ k + 1 := hleast hk
      omega
  · rintro ⟨hhere, hmem, hleast⟩
    refine ⟨hmem, fun k hk ↦ ?_⟩
    cases k with
    | zero => exact absurd hk hhere
    | succ k =>
      have hle : n ≤ k := hleast hk
      omega

/-- **A word that occurs** has a first occurrence. -/
theorem exists_first_occurrence {w s : List Char} (h : w <:+: s) :
    ∃ u t, s = u ++ w ++ t ∧ IsLeast (occurrences w s) u.length := by
  induction s with
  | nil =>
    have hw : w = [] := List.infix_nil.1 h
    exact ⟨[], [], by rw [hw]; rfl, isLeast_occurrences_zero (by rw [hw])⟩
  | cons c s ih =>
    by_cases hhere : w <+: c :: s
    · obtain ⟨t, ht⟩ := hhere
      exact ⟨[], t, ht.symm, isLeast_occurrences_zero ⟨t, ht⟩⟩
    · have hlater : w <:+: s := (List.infix_cons_iff.1 h).resolve_left hhere
      obtain ⟨u, t, hs, hfirst⟩ := ih hlater
      exact ⟨c :: u, t, by rw [hs]; rfl, isLeast_occurrences_cons.2 ⟨hhere, hfirst⟩⟩

/-- Up to the first occurrence all stays, and behind it the deletion goes on. -/
theorem deleteAll_of_first_occurrence {w u t : List Char} (hw : w ≠ [])
    (h : IsLeast (occurrences w (u ++ w ++ t)) u.length) :
    deleteAll w (u ++ w ++ t) = u ++ deleteAll w t := by
  induction u with
  | nil => exact deleteAll_append_self hw t
  | cons c u ih =>
    obtain ⟨hhere, hfirst⟩ := isLeast_occurrences_cons.1 h
    have hstay := deleteAll_cons_of_no_occurrence hhere
    exact hstay.trans (congrArg (c :: ·) (ih hfirst))

/-! ### Dissections -/

/-- The pieces of a text between the occurrences of a word, leftmost first and without overlap. -/
inductive Dissects (w : List Char) : List (List Char) → List Char → Prop where
  /-- Behind the last occurrence there is one piece more, in which the word does not occur. -/
  | last {u : List Char} (absent : ¬w <:+: u) : Dissects w [u] u
  /-- A piece ends where the word occurs first, and the others are behind this occurrence. -/
  | cons {u t : List Char} {us : List (List Char)}
      (first : IsLeast (occurrences w (u ++ w ++ t)) u.length) (rest : Dissects w us t) :
      Dissects w (u :: us) (u ++ w ++ t)

theorem exists_dissects {w : List Char} (hw : w ≠ []) (s : List Char) : ∃ us, Dissects w us s := by
  -- by the length: what stands behind the first occurrence is shorter than the text
  induction h : s.length using Nat.strongRecOn generalizing s with
  | ind n ih =>
  subst h
  by_cases hoccurs : w <:+: s
  · obtain ⟨u, t, rfl, hfirst⟩ := exists_first_occurrence hoccurs
    have hpos := List.length_pos_iff.2 hw
    obtain ⟨us, hus⟩ := ih t.length (by simp only [List.length_append]; omega) t rfl
    exact ⟨u :: us, .cons hfirst hus⟩
  · exact ⟨[s], .last hoccurs⟩

/-- The first piece ends at the first occurrence, and there is only one first. -/
theorem Dissects.unique {w s : List Char} {us vs : List (List Char)} (h : Dissects w us s)
    (h' : Dissects w vs s) : us = vs := by
  -- along the first dissection; the second one has its first occurrence at the same place
  induction h generalizing vs with
  | last absent =>
    rcases h' with - | ⟨-, -⟩
    · rfl
    · exact absurd (List.infix_append _ w _) absent
  | @cons u t us first rest ih =>
    generalize hs : u ++ w ++ t = s at h' first
    rcases h' with absent | @⟨u', t', us', first', rest'⟩
    · exact absurd (hs ▸ List.infix_append u w t) absent
    · obtain ⟨hpieces, ht⟩ := List.append_inj hs (by simp [first.unique first'])
      have hu : u = u' := (List.append_inj hpieces (first.unique first')).1
      subst hu ht
      rw [ih rest']

/-- **There is one dissection.** -/
theorem existsUnique_dissects {w : List Char} (hw : w ≠ []) (s : List Char) :
    ∃! us, Dissects w us s := by
  obtain ⟨us, hus⟩ := exists_dissects hw s
  exact ⟨us, hus, fun vs hvs ↦ hvs.unique hus⟩

/-- **Deleting a word joins the pieces** between its occurrences. -/
theorem Dissects.deleteAll_eq {w s : List Char} {us : List (List Char)} (hw : w ≠ [])
    (h : Dissects w us s) : deleteAll w s = us.flatten := by
  induction h with
  | last absent => rw [deleteAll_of_no_occurrence absent, List.flatten_singleton]
  | cons first _ ih => rw [deleteAll_of_first_occurrence hw first, ih, List.flatten_cons]

/-! ### Words in turn -/

/-- What each of the words in turn makes of a text: the pieces of its dissection, joined. -/
inductive DeletedInTurn : List (List Char) → List Char → List Char → Prop where
  | nil {s : List Char} : DeletedInTurn [] s s
  | cons {w s t : List Char} {ws us : List (List Char)} (pieces : Dissects w us s)
      (rest : DeletedInTurn ws us.flatten t) : DeletedInTurn (w :: ws) s t

theorem deletedInTurn_iff {ws : List (List Char)} (hws : ∀ w ∈ ws, w ≠ []) {s t : List Char} :
    DeletedInTurn ws s t ↔ deleteWords ws s = t := by
  induction ws generalizing s with
  | nil =>
    refine ⟨fun h ↦ ?_, fun h ↦ h ▸ .nil⟩
    rcases h with - | -
    rfl
  | cons w ws ih =>
    have hw : w ≠ [] := hws w List.mem_cons_self
    have hws' : ∀ v ∈ ws, v ≠ [] := fun v hv ↦ hws v (List.mem_cons_of_mem w hv)
    show _ ↔ deleteWords ws (deleteAll w s) = t
    constructor
    · rintro (- | ⟨hpieces, hlater⟩)
      rw [hpieces.deleteAll_eq hw]
      exact (ih hws').1 hlater
    · intro h
      obtain ⟨us, hus⟩ := exists_dissects hw s
      rw [hus.deleteAll_eq hw] at h
      exact .cons hus ((ih hws').2 h)

end Text

/-! ### Fields -/

namespace Statement

/-- The characters trimmed from both ends of a field. -/
def fieldMargins : List Char :=
  [' ', '\r', '<', '>']

theorem isFieldMargin_iff (c : Char) : isFieldMargin c = true ↔ c ∈ fieldMargins := by
  simp [isFieldMargin, fieldMargins, or_assoc]

end Statement

namespace StatementParser

/-- The words that a parser deletes: its prefixes in their order, without the empty ones. -/
def words (p : StatementParser) : List (List Char) :=
  (p.prefixes.filter (· ≠ "")).map String.toList

theorem ne_nil_of_mem_words {p : StatementParser} {w : List Char} (hw : w ∈ p.words) : w ≠ [] := by
  obtain ⟨x, hx, rfl⟩ := List.mem_map.1 hw
  simpa using (List.mem_filter.1 hx).2

theorem words_eq (p : StatementParser) :
    p.words = (p.prefixes.map String.toList).filter (· ≠ []) := by
  rw [words, List.filter_map]
  congr 2
  funext x
  simp

/-- A parser normalises a field by its words. -/
theorem toList_normalize_eq (p : StatementParser) (field : List Char) :
    (p.normalize field).toList =
      Text.deleteWords p.words (Text.trim Statement.isFieldMargin field) := by
  rw [toList_normalize, Statement.normalize, words_eq, Text.deleteWords_filter_ne_nil]

end StatementParser

open Statement in
/-- **Normalising a field joins what the occurrences of the prefixes separate.** Let `core` be the
field without the spaces, carriage returns and angle brackets at its ends; there is one such text.

* A prefix that is not empty dissects every text in exactly one way.
* What such prefixes in turn make of `core`, by joining the pieces of each dissection, is the
  normalised field and nothing else is.
* The normalised field has characters of the field in their order.
* If none of the prefixes occurs in `core`, it is the normalised field.
* Empty prefixes, wherever they stand among the others, make no difference. -/
theorem normalize_joins_dissections (p : StatementParser) (field : List Char) :
    ∃ core : List Char,
      (∀ t, Text.IsCore [' ', '\r', '<', '>'] field t ↔ t = core) ∧
      (∀ w ∈ p.words, ∀ s, ∃! us, Text.Dissects w us s) ∧
      (∀ t, Text.DeletedInTurn p.words core t ↔ p.normalize field = String.ofList t) ∧
      (p.normalize field).toList.Sublist field ∧
      ((∀ w ∈ p.words, ¬w <:+: core) → p.normalize field = String.ofList core) ∧
      ∀ q : StatementParser, q.prefixes.filter (· ≠ "") = p.prefixes.filter (· ≠ "") →
        q.normalize field = p.normalize field := by
  have hnormal : ∀ q : StatementParser, ∀ t, q.normalize field = String.ofList t ↔
      Text.deleteWords q.words (Text.trim isFieldMargin field) = t := by
    intro q t
    rw [← q.toList_normalize_eq, ← String.toList_inj, String.toList_ofList]
  refine ⟨Text.trim isFieldMargin field, fun t ↦ Text.isCore_iff isFieldMargin_iff,
    fun w hw ↦ Text.existsUnique_dissects (StatementParser.ne_nil_of_mem_words hw), fun t ↦ ?_, ?_,
    fun habsent ↦ ?_, fun q hq ↦ ?_⟩
  · rw [hnormal, Text.deletedInTurn_iff fun w ↦ StatementParser.ne_nil_of_mem_words]
  · rw [StatementParser.toList_normalize]
    exact normalize_sublist _ field
  · rw [hnormal, Text.deleteWords_of_no_occurrence habsent]
  · have hwords : q.words = p.words := congrArg (List.map String.toList) hq
    refine String.toList_inj.1 ?_
    rw [q.toList_normalize_eq, p.toList_normalize_eq, hwords]

/-- The `ab` that the first deletion makes stays, and the `cd` that it makes goes. -/
example : (⟨["ab", "", "cd"]⟩ : StatementParser).normalize "<aabbcabd>".toList = "ab" := by
  decide +kernel

end PersonRelations
