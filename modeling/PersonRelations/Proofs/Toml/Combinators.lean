import Mathlib
import PersonRelations.Toml.Parser

/-!
# What parsers take and what they give

The combinators of parsers, said as equations on texts, and two kinds of facts that carry over from
parsers to what is built of them.

* **Exact reading**: a parser takes just the given characters off the front of a text, and gives a
  known value. `Parser.many_flatMap` and `Parser.sepBy_cons_flatMap` are the steps from one value to
  many. What may follow depends on the parser, since it must not be taken too.
* **Yielding**: `Parser.Yields p P` says that whatever `p` gives has the property `P`. Here it makes
  no difference what was taken.
-/

namespace PersonRelations.Toml.Parser

variable {α β : Type} {s rest : List Char}

/-! ### Equations -/

@[simp]
theorem pure_apply (a : α) (s : List Char) : (pure a : Parser α) s = some (a, s) :=
  rfl

@[simp]
theorem bind_apply (p : Parser α) (f : α → Parser β) (s : List Char) :
    (p >>= f) s = (p s).bind fun x ↦ f x.1 x.2 :=
  rfl

@[simp]
theorem map_apply (f : α → β) (p : Parser α) (s : List Char) :
    (f <$> p) s = (p s).map fun x ↦ (f x.1, x.2) := by
  show (p s).bind _ = _
  rcases p s with _ | x <;> rfl

@[simp]
theorem seqRight_apply (p : Parser α) (q : Parser β) (s : List Char) :
    (p *> q) s = (p s).bind fun x ↦ q x.2 :=
  rfl

@[simp]
theorem seqLeft_apply (p : Parser α) (q : Parser β) (s : List Char) :
    (p <* q) s = (p s).bind fun x ↦ (q x.2).map fun y ↦ (x.1, y.2) := by
  show (p s).bind _ = _
  refine congrArg (p s).bind (funext fun x ↦ ?_)
  show (q x.2).bind _ = _
  rcases q x.2 with _ | y <;> rfl

@[simp]
theorem orElse_apply (p q : Parser α) (s : List Char) : (p <|> q) s = (p s).or (q s) := by
  show (p s).orElse (fun _ ↦ q s) = _
  rcases p s with _ | x <;> rfl

@[simp]
theorem satisfy_cons (ok : Char → Bool) (c : Char) (s : List Char) :
    satisfy ok (c :: s) = if ok c then some (c, s) else none :=
  rfl

@[simp]
theorem char_cons (c d : Char) (s : List Char) :
    char c (d :: s) = if d = c then some ((), s) else none := by
  by_cases h : d = c <;> simp [char, h]

@[simp]
theorem guarded_apply (p : Parser α) (ok : α → Bool) (s : List Char) :
    guarded p ok s = (p s).bind fun x ↦ if ok x.1 then some x else none := by
  show (p s).bind _ = _
  refine congrArg (p s).bind (funext fun x ↦ ?_)
  show (if ok x.1 then (pure x.1 : Parser α) else failure) x.2 = _
  split <;> rfl

/-! ### Exact reading -/

/-- A run of characters with the property, up to one without. -/
theorem takeWhile_append {ok : Char → Bool} {w : List Char} (hw : ∀ c ∈ w, ok c = true)
    (hrest : ∀ c ∈ rest.head?, ok c = false) : takeWhile ok (w ++ rest) = some (w, rest) := by
  have hnone : rest.takeWhile ok = [] ∧ rest.dropWhile ok = rest := by
    rcases rest with _ | ⟨c, rest⟩
    · exact ⟨rfl, rfl⟩
    · have hc : ok c = false := hrest c rfl
      simp [hc]
  rw [takeWhile, List.takeWhile_append_of_pos hw, List.dropWhile_append_of_pos hw, hnone.1, hnone.2,
    List.append_nil]

section

variable {ι : Type} {p : Parser α} (stop : List Char → Prop) (written : ι → List Char)
  (meant : ι → α)

theorem repeatFrom_flatMap {items : List ι}
    (hread : ∀ i ∈ items, ∀ rest, stop rest → p (written i ++ rest) = some (meant i, rest))
    (hstop : ∀ i ∈ items, ∀ rest, stop (written i ++ rest)) (hrest : stop rest)
    (hend : p rest = none) (before : List α) {n : Nat} (hn : items.length ≤ n) :
    repeatFrom p before n (items.flatMap written ++ rest) =
      some (before.reverse ++ items.map meant, rest) := by
  induction items generalizing before n with
  | nil =>
    rw [List.flatMap_nil, List.nil_append, List.map_nil, List.append_nil]
    cases n with
    | zero => rfl
    | succ n => rw [repeatFrom, hend]
  | cons i items ih =>
    obtain ⟨n, rfl⟩ : ∃ m, n = m + 1 := ⟨n - 1, by rw [List.length_cons] at hn; omega⟩
    have hnext : stop (items.flatMap written ++ rest) := by
      rcases items with _ | ⟨j, items⟩
      · exact hrest
      · rw [List.flatMap_cons, List.append_assoc]
        exact hstop j (by simp) _
    rw [List.flatMap_cons, List.append_assoc, repeatFrom,
      hread i List.mem_cons_self _ hnext]
    show repeatFrom p (meant i :: before) n _ = _
    rw [ih (fun j hj ↦ hread j (List.mem_cons_of_mem i hj))
      (fun j hj ↦ hstop j (List.mem_cons_of_mem i hj)) _ (by simpa using hn)]
    simp

/-- **Many values**, one after the other, are read one after the other. -/
theorem many_flatMap {items : List ι}
    (hread : ∀ i ∈ items, ∀ rest, stop rest → p (written i ++ rest) = some (meant i, rest))
    (hstop : ∀ i ∈ items, ∀ rest, stop (written i ++ rest)) (hrest : stop rest)
    (hend : p rest = none) (hne : ∀ i ∈ items, written i ≠ []) :
    many p (items.flatMap written ++ rest) = some (items.map meant, rest) := by
  have hlength : items.length ≤ (items.flatMap written ++ rest).length := by
    rw [List.length_append, List.length_flatMap]
    have := List.length_le_sum_of_one_le (items.map fun i ↦ (written i).length) (by
      intro n hn
      obtain ⟨i, hi, rfl⟩ := List.mem_map.1 hn
      exact List.length_pos_of_ne_nil (hne i hi))
    rw [List.length_map] at this
    omega
  rw [many, repeatFrom_flatMap stop written meant hread hstop hrest hend [] hlength]
  rfl

/-- **Values with a separator between them.** -/
theorem sepBy_cons_flatMap {sep : Parser β} {between : List Char} {b : β} {i : ι} {items : List ι}
    (hsep : ∀ rest, sep (between ++ rest) = some (b, rest))
    (hbetween : ∀ rest, stop (between ++ rest)) (hne : between ≠ [])
    (hread : ∀ j ∈ i :: items, ∀ rest, stop rest → p (written j ++ rest) = some (meant j, rest))
    (hrest : stop rest) (hend : sep rest = none) :
    sepBy p sep (written i ++ ((items.flatMap fun j ↦ between ++ written j) ++ rest)) =
      some (meant i :: items.map meant, rest) := by
  have hmany : many (sep *> p) ((items.flatMap fun j ↦ between ++ written j) ++ rest) =
      some (items.map meant, rest) := by
    refine many_flatMap stop (fun j ↦ between ++ written j) meant ?_ ?_ hrest ?_ ?_
    · intro j hj rest hstop
      rw [List.append_assoc, seqRight_apply, hsep]
      exact hread j (List.mem_cons_of_mem i hj) rest hstop
    · intro j _ rest
      rw [List.append_assoc]
      exact hbetween _
    · rw [seqRight_apply, hend]
      rfl
    · intro j _
      exact List.append_ne_nil_of_left_ne_nil hne _
  have hnext : stop ((items.flatMap fun j ↦ between ++ written j) ++ rest) := by
    rcases items with _ | ⟨j, items⟩
    · exact hrest
    · rw [List.flatMap_cons, List.append_assoc, List.append_assoc]
      exact hbetween _
  rw [sepBy, orElse_apply, sepBy1, bind_apply, hread i List.mem_cons_self _ hnext]
  simp only [Option.bind_some, bind_apply, hmany, pure_apply, Option.some_or]

end

/-! ### Yielding -/

/-- Whatever the parser gives has the property. -/
def Yields (p : Parser α) (P : α → Prop) : Prop :=
  ∀ s a rest, p s = some (a, rest) → P a

namespace Yields

variable {p q : Parser α} {P : α → Prop} {Q : β → Prop}

theorem pure {a : α} (h : P a) : Yields (pure a) P := by
  intro s b rest hb
  cases hb
  exact h

theorem failure : Yields (failure : Parser α) P := by
  intro s a rest h
  cases h

theorem mono {P' : α → Prop} (h : Yields p P) (hP : ∀ a, P a → P' a) : Yields p P' :=
  fun s a rest ha ↦ hP a (h s a rest ha)

theorem trivial (p : Parser α) : Yields p fun _ ↦ True :=
  fun _ _ _ _ ↦ True.intro

theorem bind {f : α → Parser β} (hp : Yields p P) (hf : ∀ a, P a → Yields (f a) Q) :
    Yields (p >>= f) Q := by
  intro s b rest hb
  rw [bind_apply] at hb
  obtain ⟨⟨a, s'⟩, ha, hb⟩ := Option.bind_eq_some_iff.1 hb
  exact hf a (hp s a s' ha) s' b rest hb

theorem map {f : α → β} (h : Yields p fun a ↦ Q (f a)) : Yields (f <$> p) Q := by
  intro s b rest hb
  rw [map_apply] at hb
  obtain ⟨⟨a, s'⟩, ha, hb⟩ := Option.map_eq_some_iff.1 hb
  cases hb
  exact h s a s' ha

/-- What was given before a parser makes no difference to what it gives. -/
theorem behind {r : α → Parser β} (h : ∀ a, Yields (r a) Q) : Yields (p >>= r) Q :=
  bind (trivial p) fun a _ ↦ h a

theorem seqRight {r : Parser β} (h : Yields r Q) : Yields (p *> r) Q :=
  behind fun _ ↦ h

theorem seqLeft {r : Parser β} (h : Yields p P) : Yields (p <* r) P := by
  intro s a rest ha
  rw [seqLeft_apply] at ha
  obtain ⟨⟨a', s'⟩, ha', hrest⟩ := Option.bind_eq_some_iff.1 ha
  obtain ⟨y, -, hy⟩ := Option.map_eq_some_iff.1 hrest
  cases hy
  exact h s a' s' ha'

theorem orElse (hp : Yields p P) (hq : Yields q P) : Yields (p <|> q) P := by
  intro s a rest ha
  rw [orElse_apply] at ha
  rcases Option.or_eq_some_iff.1 ha with h | ⟨-, h⟩
  · exact hp s a rest h
  · exact hq s a rest h

theorem guarded {ok : α → Bool} (h : Yields p fun a ↦ ok a = true → P a) :
    Yields (guarded p ok) P := by
  intro s a rest ha
  rw [guarded_apply] at ha
  obtain ⟨⟨a', s'⟩, ha', hok⟩ := Option.bind_eq_some_iff.1 ha
  split at hok
  · cases hok
    exact h s a rest ha' ‹_›
  · cases hok

theorem repeatFrom (h : Yields p P) {before : List α} (hbefore : ∀ a ∈ before, P a) (n : Nat) :
    Yields (repeatFrom p before n) fun as ↦ ∀ a ∈ as, P a := by
  induction n generalizing before with
  | zero =>
    intro s as rest has
    cases has
    simpa using hbefore
  | succ n ih =>
    intro s as rest has
    rw [Parser.repeatFrom] at has
    split at has
    · cases has
      simpa using hbefore
    · rename_i a s' ha
      refine ih ?_ s' as rest has
      rw [List.forall_mem_cons]
      exact ⟨h s a s' ha, hbefore⟩

theorem many (h : Yields p P) : Yields (many p) fun as ↦ ∀ a ∈ as, P a :=
  fun s as rest has ↦ h.repeatFrom (List.forall_mem_nil P) s.length s as rest has

theorem sepBy (h : Yields p P) (sep : Parser β) :
    Yields (sepBy p sep) fun as ↦ ∀ a ∈ as, P a := by
  refine orElse (bind h fun a ha ↦ ?_) (pure (List.forall_mem_nil P))
  refine bind (seqRight h).many fun as has ↦ pure ?_
  exact List.forall_mem_cons.2 ⟨ha, has⟩

end Yields

end PersonRelations.Toml.Parser
