import PersonRelations.Proofs.Files.Resolution

/-!
# Making directories

A missing output directory can be made, and with it the directories that lead to it. That is a
recursion over the path's ancestors, which goes on after some failures and gives up after others,
and keeps what it has made. `FileTree.DirsMade` says what it can do to a tree: at some locations
where there was nothing there is a directory now, and one of the paths leads to it.

* `FileTree.DirsMade.locate_occupied`: what a path led to, it still leads to. A free name may be
  taken now, and a path that led nowhere may lead to something.
* `FileTree.dirsMade_makeDirs`: no more than this is done along the ancestors of a path, however the
  attempt ends.
* `FileTree.isDir_of_makeDirs`: if it ends well, then the path leads to a directory, or is empty.
-/

namespace PersonRelations

namespace FileTree

variable {t t' t'' : FileTree} {loc : Location} {p : Path} {ps qs parents : List Path}

/-- **Only directories were made.** Where the second tree differs from the first, there was nothing,
and there is a directory to which one of the paths leads. -/
structure DirsMade (t t' : FileTree) (ps : List Path) : Prop where
  workDir_eq : t'.workDir = t.workDir
  get?_eq_or : ∀ loc, t'.get? loc = t.get? loc ∨
    t.get? loc = none ∧ t'.get? loc = some .dir ∧
      ∃ p ∈ ps, t'.locate p = .ok (.occupied loc .dir false)

/-- What a path comes to is what its walk comes to, if the path can be walked at all. -/
theorem locateSteps_eq_ok_iff {follow : Bool} {steps : List Name} {place : Place} :
    t.locateSteps p follow steps = .ok place ↔
      ((0 : UInt8) ∉ p.bytes ∧ p.isEmpty = false ∧ p.bytes.length < pathLimit) ∧
        t.walk follow maxLinks (if p.isAbsolute then [] else t.workDir) steps = .ok place := by
  rw [locateSteps]
  by_cases hzero : (0 : UInt8) ∈ p.bytes
  · simp [hzero]
  by_cases hempty : p.isEmpty = true
  · simp [hzero, hempty]
  by_cases hlong : pathLimit ≤ p.bytes.length
  · simp [hzero, hempty, hlong]
  · simp [hzero, hempty, hlong, Nat.lt_of_not_le hlong]

theorem isDir_iff :
    t.isDir p = true ↔ ∃ loc slash, t.locate p = .ok (.occupied loc .dir slash) := by
  rw [isDir]
  split
  · rename_i loc slash h
    simp [h]
  · rename_i h
    simpa using fun loc slash hloc ↦ h loc slash hloc

/-- The empty path leads nowhere. -/
theorem isDir_of_isEmpty (h : p.isEmpty = true) : t.isDir p = false := by
  rw [Bool.eq_false_iff, Ne, isDir_iff]
  rintro ⟨loc, slash, hloc⟩
  obtain ⟨⟨-, hempty, -⟩, -⟩ := locateSteps_eq_ok_iff.1 hloc
  rw [h] at hempty
  cases hempty

/-! ### Steps of a walk -/

section

variable {follow : Bool} {links : Nat} {here : Location} {name : Name} {rest : List Name}

/-- A step into a directory. -/
theorem walk_of_dir (h₁ : ¬(name = [] ∨ name = Path.dot)) (h₂ : ¬name = Path.dotDot)
    (h₃ : ¬maxName < name.length) (hget : t.get? (here ++ [name]) = some .dir) :
    t.walk follow links here (name :: rest) = t.walk follow links (here ++ [name]) rest := by
  rw [walk, if_neg h₁, if_neg h₂, if_neg h₃]
  simp only [hget]

/-- A step to a link that is followed. -/
theorem walk_of_link {target : Path} (h₁ : ¬(name = [] ∨ name = Path.dot))
    (h₂ : ¬name = Path.dotDot) (h₃ : ¬maxName < name.length)
    (hget : t.get? (here ++ [name]) = some (.link target))
    (hgo : ¬(rest.isEmpty && !follow) = true) :
    t.walk follow (links + 1) here (name :: rest) =
      t.walk follow links (if target.isAbsolute then [] else here) (target.names ++ rest) := by
  rw [walk, if_neg h₁, if_neg h₂, if_neg h₃]
  simp only [hget, if_neg hgo]

end

namespace DirsMade

theorem refl (t : FileTree) (ps : List Path) : t.DirsMade t ps :=
  ⟨rfl, fun _ ↦ Or.inl rfl⟩

theorem mono (h : t.DirsMade t' ps) (hsub : ps ⊆ qs) : t.DirsMade t' qs := by
  refine ⟨h.workDir_eq, fun loc ↦ (h.get?_eq_or loc).imp_right ?_⟩
  rintro ⟨hnone, hdir, p, hp, hlocate⟩
  exact ⟨hnone, hdir, p, hsub hp, hlocate⟩

/-- What was there stays. -/
theorem get?_eq (h : t.DirsMade t' ps) {e : Entry} (he : t.get? loc = some e) :
    t'.get? loc = some e := by
  rcases h.get?_eq_or loc with heq | ⟨hnone, -⟩
  · rw [heq, he]
  · rw [hnone] at he
    cases he

/-- A walk to an entry meets nothing but entries, and so takes the same steps. -/
theorem walk_occupied (h : t.DirsMade t' ps) {follow slash : Bool} {links : Nat} {here : Location}
    {steps : List Name} {entry : Entry}
    (hw : t.walk follow links here steps = .ok (.occupied loc entry slash)) :
    t'.walk follow links here steps = .ok (.occupied loc entry slash) := by
  fun_induction walk t follow links here steps with
  | case1 =>
    rw [walk]
    exact hw
  | case2 _ _ _ _ hname ih =>
    rw [walk, if_pos hname]
    exact ih hw
  | case3 _ _ _ hname ih =>
    rw [walk, if_neg hname, if_pos rfl]
    exact ih hw
  | case4 | case5 | case6 | case9 | case12 => cases hw
  | case7 _ here name rest h₁ h₂ h₃ hget ih =>
    rw [walk_of_dir h₁ h₂ h₃ (h.get?_eq hget)]
    exact ih hw
  | case8 _ here name rest h₁ h₂ h₃ target hget hstop =>
    rw [walk, if_neg h₁, if_neg h₂, if_neg h₃]
    simp only [h.get?_eq hget, if_pos hstop]
    exact hw
  | case10 here name rest h₁ h₂ h₃ target hget hgo n ih =>
    rw [walk_of_link h₁ h₂ h₃ (h.get?_eq hget) hgo]
    exact ih hw
  | case11 _ here name rest h₁ h₂ h₃ last slash entry hdir hlink hget hlast =>
    rw [walk, if_neg h₁, if_neg h₂, if_neg h₃]
    rcases entry with c | _ | target | d
    · simp only [h.get?_eq hget]
      exact (if_pos hlast).trans hw
    · exact absurd rfl hdir
    · exact absurd rfl (hlink target)
    · simp only [h.get?_eq hget]
      exact (if_pos hlast).trans hw

/-- **What a path leads to**, it still leads to when directories were made. -/
theorem locate_occupied (h : t.DirsMade t' ps) {entry : Entry} {slash : Bool}
    (hlocate : t.locate p = .ok (.occupied loc entry slash)) :
    t'.locate p = .ok (.occupied loc entry slash) := by
  obtain ⟨hpath, hwalk⟩ := locateSteps_eq_ok_iff.1 hlocate
  refine locateSteps_eq_ok_iff.2 ⟨hpath, ?_⟩
  rw [h.workDir_eq]
  exact h.walk_occupied hwalk

theorem trans (h : t.DirsMade t' ps) (h' : t'.DirsMade t'' ps) : t.DirsMade t'' ps := by
  refine ⟨h'.workDir_eq.trans h.workDir_eq, fun loc ↦ ?_⟩
  rcases h'.get?_eq_or loc with heq' | ⟨hnone', hdir', hpath'⟩
  · rcases h.get?_eq_or loc with heq | ⟨hnone, hdir, p, hp, hlocate⟩
    · exact Or.inl (heq'.trans heq)
    · exact Or.inr ⟨hnone, heq'.trans hdir, p, hp, h'.locate_occupied hlocate⟩
  · rcases h.get?_eq_or loc with heq | ⟨-, hdir, -⟩
    · exact Or.inr ⟨heq.symm.trans hnone', hdir', hpath'⟩
    · rw [hnone'] at hdir
      cases hdir

end DirsMade

/-! ### One directory -/

/-- Steps without a name lead nowhere else. -/
theorem walk_of_forall_eq_nil (t : FileTree) (follow : Bool) (links : Nat) (here : Location)
    {steps : List Name} (h : ∀ n ∈ steps, n = []) :
    t.walk follow links here steps = .ok (.occupied here .dir false) := by
  induction steps with
  | nil => rw [walk]
  | cons n steps ih =>
    rw [walk, if_pos (Or.inl (h n List.mem_cons_self))]
    exact ih fun m hm ↦ h m (List.mem_cons_of_mem n hm)

/-- **A walk that ended at a free name** ends at the directory made there. The walk for a new
directory does not follow a link at its end and the later one does, but the later one meets no link
there. -/
theorem walk_put_dir {follow slash : Bool} {links : Nat} {here d : Location} {n : Name}
    {steps tail : List Name} (htail : ∀ n ∈ tail, n = [])
    (hw : t.walk follow links here steps = .ok (.vacant d n slash)) :
    (t.put (d ++ [n]) .dir).walk true links here (steps ++ tail) =
      .ok (.occupied (d ++ [n]) .dir false) := by
  have hfree : t.get? (d ++ [n]) = none := agrees_of_walk hw
  -- so an entry that the walk meets is still there
  have hkept : ∀ {m : Location} {e : Entry}, t.get? m = some e →
      (t.put (d ++ [n]) .dir).get? m = some e := by
    intro m e he
    rw [get?_put_of_ne t _ .dir, he]
    rintro rfl
    rw [hfree] at he
    cases he
  fun_induction walk t follow links here steps with
  | case1 | case4 | case6 | case8 | case9 | case11 | case12 => cases hw
  | case2 _ _ _ _ hname ih =>
    rw [List.cons_append, walk, if_pos hname]
    exact ih hw
  | case3 _ _ _ hname ih =>
    rw [List.cons_append, walk, if_neg hname, if_pos rfl]
    exact ih hw
  | case5 _ here name rest h₁ h₂ h₃ last _ hget hlast =>
    obtain ⟨rfl, rfl, -⟩ := Place.vacant.inj (Except.ok.inj hw)
    rw [List.cons_append, walk, if_neg h₁, if_neg h₂, if_neg h₃]
    simp only [get?_put_self t (by simp : here ++ [name] ≠ []) .dir]
    refine walk_of_forall_eq_nil _ _ _ _ fun m hm ↦ ?_
    rcases List.mem_append.1 hm with hrest | hempty
    · exact List.isEmpty_iff.1 (List.all_eq_true.1 hlast m hrest)
    · exact htail m hempty
  | case7 _ here name rest h₁ h₂ h₃ hget ih =>
    rw [List.cons_append, walk_of_dir h₁ h₂ h₃ (hkept hget)]
    exact ih hw
  | case10 here name rest h₁ h₂ h₃ target hget hgo links ih =>
    rw [List.cons_append, walk_of_link h₁ h₂ h₃ (hkept hget) (by simp), ← List.append_assoc]
    exact ih hw

/-- A path takes the steps that have a name, and then steps without one. -/
theorem exists_names_eq (p : Path) :
    ∃ tail : List Name, (∀ n ∈ tail, n = []) ∧
      p.names = (p.names.filter fun n ↦ !n.isEmpty) ++ tail := by
  have hself : ((p.pieces.filter fun n ↦ !n.isEmpty).filter fun n ↦ !n.isEmpty) =
      p.pieces.filter fun n ↦ !n.isEmpty := by
    rw [List.filter_filter]
    simp
  rw [Path.names]
  split
  · refine ⟨[[]], by simp, ?_⟩
    rw [List.filter_append, hself]
    simp
  · exact ⟨[], by simp, by rw [hself, List.append_nil]⟩

/-- **Making a directory** puts it where there was nothing, and the path leads to it. -/
theorem dirsMade_of_makeDir (h : t.makeDir p = .ok t') :
    t.DirsMade t' [p] ∧ t'.isDir p = true := by
  rw [makeDir] at h
  split at h
  · cases h
  · cases h
  rename_i d n slash hplace
  cases h
  obtain ⟨hpath, hwalk⟩ := locateSteps_eq_ok_iff.1 hplace
  obtain ⟨tail, htail, hnames⟩ := exists_names_eq p
  have hlocate : (t.put (d ++ [n]) .dir).locate p = .ok (.occupied (d ++ [n]) .dir false) := by
    refine locateSteps_eq_ok_iff.2 ⟨hpath, ?_⟩
    rw [hnames]
    exact walk_put_dir htail hwalk
  refine ⟨⟨rfl, fun m ↦ ?_⟩, isDir_iff.2 ⟨_, _, hlocate⟩⟩
  by_cases hm : m = d ++ [n]
  · subst hm
    exact Or.inr ⟨agrees_of_walk hwalk, get?_put_self t (by simp) .dir, p,
      List.mem_singleton_self p, hlocate⟩
  · exact Or.inl (get?_put_of_ne t hm .dir)

/-! ### A directory and those that lead to it -/

/-- **What the attempt for one path does.** It comes to a tree, the given one or that in which the
directories behind were made. There it makes the directory, or leaves things as they are; and then
all is well only if the path is empty or leads to a directory. -/
theorem makeDirsAt_cases (t : FileTree) (p : Path) (parents : List Path) :
    ∃ t₁, (t₁ = t ∨ t₁ = (t.makeDirsAt parents).1) ∧
      ((∃ t', t₁.makeDir p = .ok t' ∧ t.makeDirsAt (p :: parents) = (t', none)) ∨
        ∃ e?, t.makeDirsAt (p :: parents) = (t₁, e?) ∧
          (e? = none → p.isEmpty = true ∨ t₁.isDir p = true)) := by
  have hstays : ∀ (t₁ : FileTree) (e : FileError),
      (if t₁.isDir p then none else some e) = none → p.isEmpty = true ∨ t₁.isDir p = true := by
    intro t₁ e h
    by_cases hdir : t₁.isDir p = true
    · exact Or.inr hdir
    · rw [if_neg hdir] at h
      cases h
  rw [makeDirsAt]
  split
  · exact ⟨t, Or.inl rfl, Or.inr ⟨none, rfl, fun _ ↦ Or.inl ‹_›⟩⟩
  split
  · rename_i t' hmade
    exact ⟨t, Or.inl rfl, Or.inl ⟨t', hmade, rfl⟩⟩
  · rcases hparents : t.makeDirsAt parents with ⟨t₁, _ | e⟩
    · refine ⟨t₁, Or.inr rfl, ?_⟩
      dsimp only
      rcases hagain : t₁.makeDir p with e | t'
      · exact Or.inr ⟨_, rfl, hstays t₁ e⟩
      · exact Or.inl ⟨t', rfl, rfl⟩
    · exact ⟨t₁, Or.inr rfl, Or.inr ⟨some e, rfl, fun h ↦ absurd h (Option.some_ne_none e)⟩⟩
  · rename_i e _ _
    exact ⟨t, Or.inl rfl, Or.inr ⟨_, rfl, hstays t e⟩⟩

theorem dirsMade_makeDirsAt (t : FileTree) (ps : List Path) :
    t.DirsMade (t.makeDirsAt ps).1 ps := by
  induction ps with
  | nil => exact DirsMade.refl t []
  | cons p parents ih =>
    obtain ⟨t₁, hcame, hdone⟩ := makeDirsAt_cases t p parents
    have hbefore : t.DirsMade t₁ (p :: parents) := by
      rcases hcame with rfl | rfl
      · exact DirsMade.refl _ _
      · exact ih.mono (List.subset_cons_self p parents)
    rcases hdone with ⟨t', hmade, hresult⟩ | ⟨e?, hresult, -⟩
    · rw [hresult]
      exact hbefore.trans ((dirsMade_of_makeDir hmade).1.mono (by simp))
    · rw [hresult]
      exact hbefore

theorem isDir_of_makeDirsAt (h : (t.makeDirsAt (p :: parents)).2 = none) :
    p.isEmpty = true ∨ (t.makeDirsAt (p :: parents)).1.isDir p = true := by
  obtain ⟨t₁, -, ⟨t', hmade, hresult⟩ | ⟨e?, hresult, hwell⟩⟩ := makeDirsAt_cases t p parents
  · rw [hresult]
    exact Or.inr (dirsMade_of_makeDir hmade).2
  · rw [hresult] at h ⊢
    exact hwell h

/-- **Making a directory and those that lead to it** does nothing else, however it ends. -/
theorem dirsMade_makeDirs (t : FileTree) (p : Path) : t.DirsMade (t.makeDirs p).1 p.ancestors :=
  dirsMade_makeDirsAt t p.ancestors

/-- If it ends well, there is a directory. Of the empty path nothing can be said. -/
theorem isDir_of_makeDirs (h : (t.makeDirs p).2 = none) :
    p.isEmpty = true ∨ (t.makeDirs p).1.isDir p = true :=
  isDir_of_makeDirsAt h

/-- For the empty path nothing is done. -/
theorem makeDirs_of_isEmpty (h : p.isEmpty = true) : t.makeDirs p = (t, none) := by
  rw [makeDirs, Path.ancestors, makeDirsAt, if_pos h]

end FileTree

end PersonRelations
