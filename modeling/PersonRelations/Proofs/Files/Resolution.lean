import Mathlib
import PersonRelations.Files.Operations

/-!
# Trees in which only files change

While a run writes its output, files appear and change their content, and nothing else happens to
the tree. `FileTree.Extends` says this of two trees. Directories, links and devices stay what they
are, so a path leads to the same place in both (`FileTree.Extends.locate_eq`): the place is only to
be looked at again (`Place.seenIn`), since a free name may have become a file and a file may have a
new content.

* `FileTree.Opened t p h`: the handle `h` is what opening the path `p` gives, and nothing was
  written to it.
* `FileTree.opened_of_create`: opening gives such a handle, in a tree that extends the old one.
* `FileTree.Opened.mono`: a handle stays one while other files are opened.
-/

namespace PersonRelations

namespace Place

/-- Whether the place is as the tree has it. A walk that ends where it stands does not look there,
so nothing is said of directories. -/
def AgreesWith (t : FileTree) : Place → Prop
  | occupied loc entry _ => entry = .dir ∨ t.get? loc = some entry
  | vacant dir name _ => t.get? (dir ++ [name]) = none

/-- The place looked at again in another tree: a free name can have become a file, and a file has
the content that it has there. -/
def seenIn (t : FileTree) : Place → Place
  | occupied loc (.file _) slash => occupied loc (.file (t.content loc)) slash
  | occupied loc entry slash => occupied loc entry slash
  | vacant dir name slash =>
    match t.get? (dir ++ [name]) with
    | some (.file c) => occupied (dir ++ [name]) (.file c) slash
    | _ => vacant dir name slash

end Place

namespace FileTree

variable {t t' t'' : FileTree} {loc : Location} {c : ByteArray}

theorem content_of_get? (h : t.get? loc = some (.file c)) : t.content loc = c := by
  rw [content, h]

/-- A file can be put at the location: there is one, or nothing. -/
def TakesFile (t : FileTree) (loc : Location) : Prop :=
  t.get? loc = none ∨ ∃ c, t.get? loc = some (.file c)

theorem TakesFile.ne_nil (h : t.TakesFile loc) : loc ≠ [] := by
  rintro rfl
  rcases h with h | ⟨c, h⟩
  · simp [get?] at h
  · simp [get?] at h

/-- **The second tree extends the first** if they differ only in files that appeared or have another
content. -/
structure Extends (t t' : FileTree) : Prop where
  workDir_eq : t'.workDir = t.workDir
  get?_eq_or : ∀ loc, t'.get? loc = t.get? loc ∨
    t.TakesFile loc ∧ ∃ c, t'.get? loc = some (.file c)

namespace Extends

theorem refl (t : FileTree) : t.Extends t :=
  ⟨rfl, fun _ ↦ Or.inl rfl⟩

theorem trans (h : t.Extends t') (h' : t'.Extends t'') : t.Extends t'' := by
  refine ⟨h'.workDir_eq.trans h.workDir_eq, fun loc ↦ ?_⟩
  rcases h.get?_eq_or loc with heq | ⟨htakes, hfile⟩
  · rcases h'.get?_eq_or loc with heq' | ⟨htakes', hfile'⟩
    · exact Or.inl (heq'.trans heq)
    · -- only the second step changes the location, so the first tree takes a file there as well
      refine Or.inr ⟨?_, hfile'⟩
      rwa [TakesFile, heq] at htakes'
  · rcases h'.get?_eq_or loc with heq' | ⟨-, hfile'⟩
    · exact Or.inr ⟨htakes, heq' ▸ hfile⟩
    · exact Or.inr ⟨htakes, hfile'⟩

/-- Putting a file in place of a file or of nothing. -/
theorem put (h : t.TakesFile loc) (c : ByteArray) : t.Extends (t.put loc (.file c)) := by
  refine ⟨rfl, fun m ↦ ?_⟩
  by_cases hm : m = loc
  · subst hm
    exact Or.inr ⟨h, c, get?_put_self t h.ne_nil _⟩
  · exact Or.inl (get?_put_of_ne t hm _)

/-- What is not a file stays. -/
theorem get?_eq (h : t.Extends t') {e : Entry} (he : t.get? loc = some e)
    (hfile : ∀ c, e ≠ .file c) : t'.get? loc = some e := by
  rcases h.get?_eq_or loc with heq | ⟨hnone | ⟨c, hc⟩, -⟩
  · rw [heq, he]
  · rw [he] at hnone
    cases hnone
  · rw [he] at hc
    exact absurd (Option.some.inj hc) (hfile c)

/-- A file stays a file. -/
theorem get?_file (h : t.Extends t') (hc : t.get? loc = some (.file c)) :
    t'.get? loc = some (.file (t'.content loc)) := by
  rcases h.get?_eq_or loc with heq | ⟨-, c', hc'⟩
  · rw [content, heq, hc]
  · rw [content, hc']

/-- A free name stays free or becomes a file. -/
theorem get?_none (h : t.Extends t') (hnone : t.get? loc = none) :
    t'.get? loc = none ∨ ∃ c, t'.get? loc = some (.file c) := by
  rcases h.get?_eq_or loc with heq | ⟨-, hfile⟩
  · exact Or.inl (heq.trans hnone)
  · exact Or.inr hfile

end Extends

/-! ### Where a path leads -/

/-- A walk tells the truth about where it ends. -/
theorem agrees_of_walk {follow : Bool} {links : Nat} {here : Location} {steps : List Name}
    {p : Place} (h : t.walk follow links here steps = .ok p) : p.AgreesWith t := by
  fun_induction walk t follow links here steps with
  | case1 =>
    cases h
    exact Or.inl rfl
  | case2 _ _ _ _ _ ih | case3 _ _ _ _ ih | case7 _ _ _ _ _ _ _ _ ih => exact ih h
  | case4 | case6 | case9 | case12 => cases h
  | case5 _ _ _ _ _ _ _ _ _ hget =>
    cases h
    exact hget
  | case8 _ _ _ _ _ _ _ _ hget =>
    cases h
    exact Or.inr hget
  | case10 _ _ _ _ _ _ _ _ _ _ ih => exact ih h
  | case11 _ _ _ _ _ _ _ _ _ _ _ _ hget =>
    cases h
    exact Or.inr hget

/-- **A walk in an extended tree** takes the same steps. It goes through directories and links only,
and these are the same in both trees. -/
theorem Extends.walk_eq (hext : t.Extends t') {follow : Bool} {links : Nat} {here : Location}
    {steps : List Name} {p : Place} (h : t.walk follow links here steps = .ok p) :
    t'.walk follow links here steps = .ok (p.seenIn t') := by
  fun_induction walk t follow links here steps with
  | case1 =>
    cases h
    rw [walk]
    rfl
  | case2 _ _ _ _ hname ih =>
    rw [walk, if_pos hname]
    exact ih h
  | case3 _ _ _ hname ih =>
    rw [walk, if_neg hname, if_pos rfl]
    exact ih h
  | case4 | case6 | case9 | case12 => cases h
  | case5 _ here name rest h₁ h₂ h₃ last slash hget hlast =>
    cases h
    rw [walk, if_neg h₁, if_neg h₂, if_neg h₃]
    -- the free name is still free, or there is a file now; a walk ends at either
    rcases hext.get?_none hget with hget' | ⟨c, hget'⟩
    · simp only [hget', Place.seenIn]
      exact if_pos hlast
    · simp only [hget', Place.seenIn]
      exact if_pos hlast
  | case7 _ here name rest h₁ h₂ h₃ hget ih =>
    rw [walk, if_neg h₁, if_neg h₂, if_neg h₃]
    simp only [hext.get?_eq hget (by simp)]
    exact ih h
  | case8 _ here name rest h₁ h₂ h₃ target hget hstop =>
    cases h
    rw [walk, if_neg h₁, if_neg h₂, if_neg h₃]
    simp only [hext.get?_eq hget (by simp), if_pos hstop]
    rfl
  | case10 here name rest h₁ h₂ h₃ target hget hgo n ih =>
    rw [walk, if_neg h₁, if_neg h₂, if_neg h₃]
    simp only [hext.get?_eq hget (by simp), if_neg hgo]
    exact ih h
  | case11 _ here name rest h₁ h₂ h₃ last slash entry hdir hlink hget hlast =>
    cases h
    rw [walk, if_neg h₁, if_neg h₂, if_neg h₃]
    cases entry with
    | dir => exact absurd rfl hdir
    | link target => exact absurd rfl (hlink target)
    | file c =>
      simp only [hext.get?_file hget]
      exact if_pos hlast
    | device d =>
      simp only [hext.get?_eq hget (by simp)]
      exact if_pos hlast

theorem agrees_of_locate {path : Path} {p : Place} (h : t.locate path = .ok p) :
    p.AgreesWith t := by
  unfold locate locateSteps at h
  split at h
  · cases h
  split at h
  · cases h
  split at h
  · cases h
  exact agrees_of_walk h

/-- A path that leads to a file leads to one that the tree has. -/
theorem get?_of_locate {path : Path} {slash : Bool}
    (h : t.locate path = .ok (.occupied loc (.file c) slash)) : t.get? loc = some (.file c) := by
  rcases agrees_of_locate h with hdir | hget
  · cases hdir
  · exact hget

/-- **A path leads to the same place** in an extended tree. -/
theorem Extends.locate_eq (hext : t.Extends t') {path : Path} {p : Place}
    (h : t.locate path = .ok p) : t'.locate path = .ok (p.seenIn t') := by
  unfold locate locateSteps at h ⊢
  split at h
  · cases h
  rename_i hzero
  split at h
  · cases h
  rename_i hempty
  split at h
  · cases h
  rename_i hlong
  rw [if_neg hzero, if_neg hempty, if_neg hlong, hext.workDir_eq]
  exact hext.walk_eq h

/-- A path that leads to a file leads to the same file in an extended tree. -/
theorem Extends.locate_file (hext : t.Extends t') {path : Path} {slash : Bool}
    (h : t.locate path = .ok (.occupied loc (.file c) slash)) :
    t'.locate path = .ok (.occupied loc (.file (t'.content loc)) slash) :=
  hext.locate_eq h

/-! ### Opening files -/

/-- The handle is what opening the path gives, and nothing was written through it: it stands at the
start of an empty file, or is a device. -/
def Opened (t : FileTree) (path : Path) : Handle → Prop
  | .file loc offset => offset = 0 ∧ t.locate path = .ok (.occupied loc (.file .empty) false)
  | .device d => ∃ loc, t.locate path = .ok (.occupied loc (.device d) false)

/-- What opening a path can do to a tree: nothing, or a file is emptied or made. -/
def Emptied (t t' : FileTree) : Prop :=
  t' = t ∨ ∃ loc, t.TakesFile loc ∧ t' = t.put loc (.file .empty)

theorem Emptied.extends (h : t.Emptied t') : t.Extends t' := by
  rcases h with rfl | ⟨loc, hloc, rfl⟩
  · exact Extends.refl _
  · exact Extends.put hloc _

/-- An empty file stays empty. -/
theorem Emptied.get?_empty (h : t.Emptied t') (he : t.get? loc = some (.file .empty)) :
    t'.get? loc = some (.file .empty) := by
  rcases h with rfl | ⟨m, hm, rfl⟩
  · exact he
  · by_cases heq : loc = m
    · subst heq
      exact get?_put_self t hm.ne_nil _
    · rw [get?_put_of_ne t heq, he]

/-- **An open handle stays one** while other files are opened. -/
theorem Opened.mono {path : Path} {h : Handle} (ho : t.Opened path h) (he : t.Emptied t') :
    t'.Opened path h := by
  cases h with
  | file loc offset =>
    obtain ⟨h0, hloc⟩ := ho
    have hempty : t'.content loc = .empty := content_of_get? (he.get?_empty (get?_of_locate hloc))
    refine ⟨h0, ?_⟩
    rw [he.extends.locate_eq hloc, Place.seenIn, hempty]
  | device d =>
    obtain ⟨loc, hloc⟩ := ho
    exact ⟨loc, he.extends.locate_eq hloc⟩

/-- **Opening a path** empties what is there or makes it, and gives a handle to it. -/
theorem opened_of_create {path : Path} {h : Handle} (hc : t.create path = .ok (t', h)) :
    t.Emptied t' ∧ t'.Opened path h := by
  unfold create at hc
  split at hc
  · cases hc
  · -- a free name, at which the file is made
    rename_i dir name slash hloc
    split at hc
    · cases hc
    · rename_i hslash
      rw [Bool.not_eq_true] at hslash
      cases hc
      have htakes : t.TakesFile (dir ++ [name]) := Or.inl (agrees_of_locate hloc)
      have hmade := get?_put_self t htakes.ne_nil (.file .empty)
      refine ⟨Or.inr ⟨_, htakes, rfl⟩, rfl, ?_⟩
      rw [(Extends.put htakes .empty).locate_eq hloc, Place.seenIn, hmade, hslash]
  · rename_i loc entry slash hloc
    split at hc
    · cases hc
    · rename_i hslash
      rw [Bool.not_eq_true] at hslash
      subst hslash
      split at hc
      · -- a file, which is emptied
        cases hc
        have htakes : t.TakesFile loc := Or.inr ⟨_, get?_of_locate hloc⟩
        have hmade := get?_put_self t htakes.ne_nil (.file .empty)
        refine ⟨Or.inr ⟨_, htakes, rfl⟩, rfl, ?_⟩
        rw [(Extends.put htakes .empty).locate_eq hloc, Place.seenIn, content_of_get? hmade]
      · -- a device, of which the tree knows no content
        cases hc
        exact ⟨Or.inl rfl, loc, hloc⟩
      · cases hc
      · cases hc

end FileTree

end PersonRelations
