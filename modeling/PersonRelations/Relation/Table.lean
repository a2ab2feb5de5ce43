import PersonRelations.Relation

/-!
# Tables of values per relation

A `Relation.Table α` holds one value for each relation, in table order. Two tables are equal as
soon as they agree at every relation (`Relation.Table.ext_get`), so a table that was filled in
another order is the same table.
-/

namespace PersonRelations

/-- One value of type `α` for every relation. -/
structure Relation.Table (α : Type) where
  /-- The values, in table order. -/
  values : Vector α 13
  deriving DecidableEq, Repr

namespace Relation.Table

variable {α β : Type}

/-- The value at a relation. -/
def get (t : Table α) (r : Relation) : α :=
  t.values[r.index]

/-- The table with the value at one relation replaced. -/
def set (t : Table α) (r : Relation) (a : α) : Table α :=
  ⟨t.values.set r.index a⟩

/-- The table that holds the same value everywhere. -/
def replicate (a : α) : Table α :=
  ⟨Vector.replicate 13 a⟩

/-- The table of a function on relations. -/
def ofFn (f : Relation → α) : Table α :=
  ⟨⟨(Relation.all.map f).toArray, by simp⟩⟩

/-- The values with their relations, in table order. -/
def toList (t : Table α) : List (Relation × α) :=
  Relation.all.map fun r ↦ (r, t.get r)

instance [Inhabited α] : Inhabited (Table α) := ⟨replicate default⟩

@[simp]
theorem get_set_self (t : Table α) (r : Relation) (a : α) : (t.set r a).get r = a := by
  simp [get, set]

@[simp]
theorem get_set_of_ne (t : Table α) {r s : Relation} (h : s ≠ r) (a : α) :
    (t.set r a).get s = t.get s := by
  have hne : r.index.val ≠ s.index.val := fun e ↦
    h (Relation.index_injective (Fin.ext e)).symm
  simp [get, set, Vector.getElem_set_ne, hne]

@[simp]
theorem get_replicate (a : α) (r : Relation) : (replicate a).get r = a := by
  simp [get, replicate]

@[simp]
theorem get_ofFn (f : Relation → α) (r : Relation) : (ofFn f).get r = f r := by
  cases r <;> rfl

/-- A table is determined by its values at the relations. -/
theorem ext_get {t u : Table α} (h : ∀ r, t.get r = u.get r) : t = u := by
  obtain ⟨t⟩ := t
  obtain ⟨u⟩ := u
  congr 1
  ext i hi
  obtain ⟨r, hr⟩ : ∃ r : Relation, r.index.val = i := by
    have : ∀ k : Fin 13, ∃ r : Relation, r.index = k := by
      intro k
      exact ⟨Relation.all.get ⟨k.val, by simp⟩, by revert k; decide⟩
    obtain ⟨r, hr⟩ := this ⟨i, hi⟩
    exact ⟨r, by rw [hr]⟩
  subst hr
  exact h r

end Relation.Table

end PersonRelations
