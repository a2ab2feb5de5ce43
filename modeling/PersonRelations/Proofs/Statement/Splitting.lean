import PersonRelations.Proofs.Statement.Fields

/-!
# How a line splits into fields

What `StatementParser.parse` makes of a line, said without the functions that trim and cut.

* `Text.IsCore` says what trimming leaves: the text between two runs of margin characters that
  neither begins nor ends with one. There is exactly one such text (`Text.isCore_iff`), and it does
  not change when margin characters are added at the ends (`Text.IsCore.surround`).
* `Statement.SplitsAs` says what cutting gives: two fields without a space, and all the rest. A text
  splits in this way in at most one way, and does so exactly if it has two spaces
  (`Statement.cut_cases`).

The main statement, `parse_splits_at_two_spaces`, is about every line and every list of prefixes.
Normalising a field comes after the cut, so neither the margins of a field nor a deleted prefix can
make two fields out of one.
-/

namespace PersonRelations

namespace Text

/-! ### What trimming leaves -/

/-- `t` is what is left of `s` when the margin characters at both ends are removed: it stands
between two runs of them, and neither begins nor ends with one. -/
structure IsCore (margins : List Char) (s t : List Char) : Prop where
  /-- Only margin characters are removed, and only at the ends. -/
  exists_eq : ∃ u v, s = u ++ t ++ v ∧ (∀ c ∈ u, c ∈ margins) ∧ ∀ c ∈ v, c ∈ margins
  /-- None is left at the beginning. -/
  head_notMem : ∀ c ∈ t.head?, c ∉ margins
  /-- None is left at the end. -/
  last_notMem : ∀ c ∈ t.getLast?, c ∉ margins

theorem dropWhile_of_head? {p : Char → Bool} {t : List Char} (h : ∀ c ∈ t.head?, p c = false) :
    t.dropWhile p = t := by
  cases t with
  | nil => rfl
  | cons c t =>
    have hc : p c = false := h c rfl
    exact List.dropWhile_cons_of_neg (by simp [hc])

theorem head?_dropWhile (p : Char → Bool) (s : List Char) :
    ∀ c ∈ (s.dropWhile p).head?, p c = false := by
  intro c hc
  have hnot := List.head?_dropWhile_not p s
  rw [Option.mem_def.1 hc] at hnot
  exact hnot

section

variable {p : Char → Bool} {margins s t : List Char} (hp : ∀ c, p c = true ↔ c ∈ margins)

include hp

/-- Trimming gives a core. What is left begins as the text did whose beginning alone was trimmed,
since trimming the end leaves a beginning of it. -/
theorem isCore_trim (s : List Char) : IsCore margins s (trim p s) := by
  have hfalse : ∀ c, p c = false → c ∉ margins := by
    intro c hc hmem
    rw [(hp c).2 hmem] at hc
    cases hc
  refine ⟨?_, ?_, ?_⟩
  · obtain ⟨u, v, hs, hu, hv⟩ := exists_eq_append_trim p s
    exact ⟨u, v, hs, fun c hc ↦ (hp c).1 (hu c hc), fun c hc ↦ (hp c).1 (hv c hc)⟩
  · intro c hc
    have hprefix : trim p s <+: s.dropWhile p := by
      rw [trim, trimEnd, ← List.reverse_suffix, List.reverse_reverse]
      exact List.dropWhile_suffix p
    obtain ⟨v, hv⟩ := hprefix
    refine hfalse c (head?_dropWhile p s c ?_)
    rw [← hv, List.head?_append, Option.mem_def.1 hc]
    rfl
  · intro c hc
    rw [trim, trimEnd, List.getLast?_reverse] at hc
    exact hfalse c (head?_dropWhile p _ c hc)

/-- A core is what trimming gives. -/
theorem IsCore.trim_eq (h : IsCore margins s t) : trim p s = t := by
  obtain ⟨u, v, rfl, hu, hv⟩ := h.exists_eq
  have htrue : ∀ w : List Char, (∀ c ∈ w, c ∈ margins) → ∀ c ∈ w, p c = true :=
    fun w hw c hc ↦ (hp c).2 (hw c hc)
  have hfalse : ∀ c, c ∉ margins → p c = false := by
    intro c hc
    rw [← Bool.not_eq_true]
    exact fun hpc ↦ hc ((hp c).1 hpc)
  rw [List.append_assoc, trim, List.dropWhile_append_of_pos (htrue u hu)]
  cases ht : t with
  | nil =>
    rw [List.nil_append, List.dropWhile_eq_nil_iff.2 (htrue v hv)]
    rfl
  | cons c cs =>
    have hhead : ∀ d ∈ (c :: cs ++ v).head?, p d = false := by
      intro d hd
      rw [← ht] at hd
      exact hfalse d (h.head_notMem d (by rw [ht] at hd ⊢; exact hd))
    have hlast : ∀ d ∈ (c :: cs).reverse.head?, p d = false := by
      intro d hd
      rw [List.head?_reverse, ← ht] at hd
      exact hfalse d (h.last_notMem d hd)
    have hv' : ∀ d ∈ v.reverse, p d = true := fun d hd ↦ htrue v hv d (List.mem_reverse.1 hd)
    rw [dropWhile_of_head? hhead, trimEnd, List.reverse_append, List.dropWhile_append_of_pos hv',
      dropWhile_of_head? hlast, List.reverse_reverse]

/-- **There is one core**, the trimmed text. -/
theorem isCore_iff : IsCore margins s t ↔ t = trim p s := by
  refine ⟨fun h ↦ (h.trim_eq hp).symm, ?_⟩
  rintro rfl
  exact isCore_trim hp s

end

/-- Margin characters at the ends make no difference. -/
theorem IsCore.surround {margins s t u v : List Char} (h : IsCore margins s t)
    (hu : ∀ c ∈ u, c ∈ margins) (hv : ∀ c ∈ v, c ∈ margins) : IsCore margins (u ++ s ++ v) t := by
  obtain ⟨u', v', rfl, hu', hv'⟩ := h.exists_eq
  refine ⟨⟨u ++ u', v' ++ v, by simp, ?_, ?_⟩, h.head_notMem, h.last_notMem⟩
  · exact fun c hc ↦ (List.mem_append.1 hc).elim (hu c) (hu' c)
  · exact fun c hc ↦ (List.mem_append.1 hc).elim (hv' c) (hv c)

/-! ### What cutting gives -/

/-- Without a separator there is one piece. -/
theorem cut_of_notMem {c : Char} {s : List Char} (h : c ∉ s) (n : Nat) : cut c n s = [s] := by
  cases n with
  | zero => rfl
  | succ n =>
    have hall : s.dropWhile (· != c) = [] := by
      refine List.dropWhile_eq_nil_iff.2 fun d hd ↦ ?_
      have hne : d ≠ c := by
        rintro rfl
        exact h hd
      simpa using hne
    rw [cut, hall]

/-- **The first separator** ends the first piece. -/
theorem cut_append_cons {c : Char} {a : List Char} (h : c ∉ a) (n : Nat) (rest : List Char) :
    cut c (n + 1) (a ++ c :: rest) = a :: cut c n rest := by
  have ha : ∀ d ∈ a, (d != c) = true := by
    intro d hd
    have hne : d ≠ c := by
      rintro rfl
      exact h hd
    simpa using hne
  have hdrop : (a ++ c :: rest).dropWhile (· != c) = c :: rest := by
    rw [List.dropWhile_append_of_pos ha, List.dropWhile_cons_of_neg (by simp)]
  have htake : (a ++ c :: rest).takeWhile (· != c) = a := by
    rw [List.takeWhile_append_of_pos ha, List.takeWhile_cons_of_neg (by simp), List.append_nil]
  rw [cut, hdrop, htake]

end Text

/-! ### The fields of a line -/

namespace Statement

/-- The characters trimmed from both ends of a line. -/
def lineMargins : List Char :=
  [' ', '\t', '\r', '\n', '.']

theorem isLineMargin_iff (c : Char) : isLineMargin c = true ↔ c ∈ lineMargins := by
  simp [isLineMargin, lineMargins, or_assoc]

/-- The text is two fields without a space, and all the rest behind a second space. -/
structure SplitsAs (t a b c : List Char) : Prop where
  eq : t = a ++ ' ' :: (b ++ ' ' :: c)
  left : ' ' ∉ a
  middle : ' ' ∉ b

namespace SplitsAs

variable {t a b c : List Char}

theorem cut_eq (h : SplitsAs t a b c) : Text.cut ' ' 2 t = [a, b, c] := by
  rw [h.eq, Text.cut_append_cons h.left, Text.cut_append_cons h.middle]
  rfl

/-- A text splits in at most one way, since the pieces are those of the cut. -/
theorem unique (h : SplitsAs t a b c) {a' b' c' : List Char} (h' : SplitsAs t a' b' c') :
    a' = a ∧ b' = b ∧ c' = c := by
  have hcut : [a', b', c'] = [a, b, c] := h'.cut_eq.symm.trans h.cut_eq
  simpa using hcut

theorem two_le_count (h : SplitsAs t a b c) : 2 ≤ t.count ' ' := by
  rw [h.eq]
  simp only [List.count_append, List.count_cons_self]
  omega

/-- The ends of a trimmed text are no spaces, so neither the first field nor the last one is
empty. -/
theorem ne_nil (h : SplitsAs t a b c) {line : List Char} (ht : Text.IsCore lineMargins line t) :
    a ≠ [] ∧ c ≠ [] := by
  have hspace : ' ' ∈ lineMargins := by decide
  refine ⟨?_, ?_⟩
  · rintro rfl
    exact ht.head_notMem ' ' (by simp [h.eq]) hspace
  · rintro rfl
    have hlast : t = (a ++ ' ' :: b) ++ [' '] := by simp [h.eq]
    exact ht.last_notMem ' ' (by rw [hlast, List.getLast?_concat]; rfl) hspace

end SplitsAs

/-- **Fewer than two spaces, or two fields and the rest.** Below two spaces the cut is at every
space. -/
theorem cut_cases (t : List Char) :
    (t.count ' ' < 2 ∧ Text.cut ' ' 2 t = t.splitOn ' ' ∧
      ((t.splitOn ' ').length = 1 ∨ (t.splitOn ' ').length = 2) ∧
      ∀ piece ∈ t.splitOn ' ', ' ' ∉ piece) ∨
    ∃ a b c, SplitsAs t a b c := by
  by_cases hone : ' ' ∈ t
  · obtain ⟨a, rest, rfl, ha⟩ := List.eq_append_cons_of_mem hone
    by_cases htwo : ' ' ∈ rest
    · obtain ⟨b, c, rfl, hb⟩ := List.eq_append_cons_of_mem htwo
      exact Or.inr ⟨a, b, c, rfl, ha, hb⟩
    · have hpieces : (a ++ ' ' :: rest).splitOn ' ' = [a, rest] := by
        rw [List.splitOn_append_cons_self_of_not_mem ha, List.splitOn_eq_singleton htwo]
      have hcount : (a ++ ' ' :: rest).count ' ' = 1 := by
        rw [List.count_append, List.count_cons_self, List.count_eq_zero.2 ha,
          List.count_eq_zero.2 htwo]
      rw [hpieces, hcount, Text.cut_append_cons ha, Text.cut_of_notMem htwo]
      exact Or.inl ⟨by omega, rfl, Or.inr rfl, by simp [ha, htwo]⟩
  · have hpieces : t.splitOn ' ' = [t] := List.splitOn_eq_singleton hone
    rw [hpieces, List.count_eq_zero.2 hone, Text.cut_of_notMem hone]
    exact Or.inl ⟨by omega, rfl, Or.inl rfl, by simpa using hone⟩

end Statement

namespace StatementParser

open Statement

variable {p : StatementParser} {line : String} {t : List Char}

/-- A line is read by way of its core. -/
theorem parse_of_isCore (h : Text.IsCore lineMargins line.toList t) :
    p.parse line = ofParts ((Text.cut ' ' 2 t).map p.normalize) := by
  rw [parse, fields, h.trim_eq isLineMargin_iff]

/-- **A core that splits** makes a triple of the three fields. -/
theorem parse_of_splitsAs {a b c : List Char} (h : Text.IsCore lineMargins line.toList t)
    (hsplit : SplitsAs t a b c) :
    p.parse line = .triple ⟨p.normalize a, p.normalize b, p.normalize c⟩ := by
  rw [parse_of_isCore h, hsplit.cut_eq]
  rfl

/-- One part or two do not make a triple. -/
theorem ofParts_of_few {parts : List String} (h : parts.length = 1 ∨ parts.length = 2) :
    ofParts parts = .malformed parts := by
  match parts with
  | [_] => rfl
  | [_, _] => rfl
  | [] | _ :: _ :: _ :: _ => simp at h

/-- Normalising a field adds no space. -/
theorem space_notMem_normalize {field : List Char} (h : ' ' ∉ field) :
    ' ' ∉ (p.normalize field).toList := by
  rw [toList_normalize]
  exact fun hmem ↦ h (mem_of_mem_normalize hmem)

end StatementParser

open Statement in
/-- **A line is a triple if it has two inner spaces, and its fields are what the first two of them
separate.** Let `t` be the line without the spaces, tabs, carriage returns, line feeds and full
stops at its ends; there is one such text.

* The line is a triple exactly if `t` has at least two spaces.
* Then `t` splits in one way into two fields without a space and a third one, the first and the
  third are not empty, and the triple consists of the three fields, normalised.
* Otherwise the line is malformed, and its parts are the one or two pieces between the spaces of
  `t`, normalised; no part has a space.
* Characters of these five kinds, added at the ends of the line, make no difference. -/
theorem parse_splits_at_two_spaces (p : StatementParser) (line : String) :
    ∃ t : List Char,
      (∀ t', Text.IsCore [' ', '\t', '\r', '\n', '.'] line.toList t' ↔ t' = t) ∧
      ((∃ x, p.parse line = .triple x) ↔ 2 ≤ t.count ' ') ∧
      (2 ≤ t.count ' ' → ∃ a b c, SplitsAs t a b c ∧
        (∀ a' b' c', SplitsAs t a' b' c' → a' = a ∧ b' = b ∧ c' = c) ∧ a ≠ [] ∧ c ≠ [] ∧
        p.parse line = .triple ⟨p.normalize a, p.normalize b, p.normalize c⟩) ∧
      (t.count ' ' < 2 → ∃ parts, p.parse line = .malformed parts ∧
        parts = (t.splitOn ' ').map p.normalize ∧ (parts.length = 1 ∨ parts.length = 2) ∧
        ∀ part ∈ parts, ' ' ∉ part.toList) ∧
      ∀ u v : String, (∀ c ∈ u.toList, c ∈ [' ', '\t', '\r', '\n', '.']) →
        (∀ c ∈ v.toList, c ∈ [' ', '\t', '\r', '\n', '.']) →
        p.parse (u ++ line ++ v) = p.parse line := by
  have hcore : Text.IsCore lineMargins line.toList (Text.trim isLineMargin line.toList) :=
    Text.isCore_trim isLineMargin_iff line.toList
  refine ⟨_, fun t' ↦ Text.isCore_iff isLineMargin_iff, ?_⟩
  generalize Text.trim isLineMargin line.toList = t at hcore ⊢
  have hmargins : ∀ u v : String, (∀ c ∈ u.toList, c ∈ lineMargins) →
      (∀ c ∈ v.toList, c ∈ lineMargins) → p.parse (u ++ line ++ v) = p.parse line := by
    intro u v hu hv
    have hmore : Text.IsCore lineMargins (u ++ line ++ v).toList t := by
      simpa using hcore.surround hu hv
    rw [StatementParser.parse_of_isCore hmore, StatementParser.parse_of_isCore hcore]
  rcases cut_cases t with ⟨hfew, hcut, hlen, hspace⟩ | ⟨a, b, c, hsplit⟩
  · have hlen' : ((t.splitOn ' ').map p.normalize).length = 1 ∨
        ((t.splitOn ' ').map p.normalize).length = 2 := by
      rwa [List.length_map]
    have hparse : p.parse line = .malformed ((t.splitOn ' ').map p.normalize) := by
      rw [StatementParser.parse_of_isCore hcore, hcut, StatementParser.ofParts_of_few hlen']
    have hpart : ∀ part ∈ (t.splitOn ' ').map p.normalize, ' ' ∉ part.toList := by
      intro part hmem
      obtain ⟨piece, hpiece, rfl⟩ := List.mem_map.1 hmem
      exact StatementParser.space_notMem_normalize (hspace piece hpiece)
    refine ⟨⟨?_, fun htwo ↦ absurd htwo (by omega)⟩, fun htwo ↦ absurd htwo (by omega),
      fun _ ↦ ⟨_, hparse, rfl, hlen', hpart⟩, hmargins⟩
    rintro ⟨x, hx⟩
    rw [hparse] at hx
    cases hx
  · have htwo := hsplit.two_le_count
    have hparse : p.parse line = _ := StatementParser.parse_of_splitsAs hcore hsplit
    obtain ⟨ha, hc⟩ := hsplit.ne_nil hcore
    exact ⟨⟨fun _ ↦ htwo, fun _ ↦ ⟨_, hparse⟩⟩,
      fun _ ↦ ⟨a, b, c, hsplit, fun _ _ _ h' ↦ hsplit.unique h', ha, hc, hparse⟩,
      fun hfew ↦ absurd hfew (by omega), hmargins⟩

end PersonRelations
