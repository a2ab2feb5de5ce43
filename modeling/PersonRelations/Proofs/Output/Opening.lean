import PersonRelations.Proofs.Files.Directories
import PersonRelations.Proofs.Output.Targets

/-!
# Opening the relation files

The relation files are opened in table order, each one emptied or made as it is opened, and the
first that cannot be opened ends the attempt. So an attempt that fails has already destroyed old
output, and the question is what exactly is left of it.

* `FileTree.StandsFor`: the location of the file that opening a path would empty or make. While
  files are opened it stays the same (`FileTree.Extends.standsFor_iff`), so it can be looked up
  before.
* `FileTree.OpenedOnly`: the files of some relations were opened, and nothing else was done.
* `RelationFiles.openAll_cases`: the relations that come before the first refusal are those whose
  files were opened.

`opening_framed` puts this together with the making of the directory.
-/

namespace PersonRelations

/-- The location of the file for which a place stands: that of a file, or the one that a free name
would get. With a separator at the end a path stands for no file. -/
def Place.fileAt? : Place → Option Location
  | occupied loc (.file _) false => some loc
  | vacant dir name false => some (dir ++ [name])
  | _ => none

/-- A place stands for the same file when it is looked at again. -/
theorem Place.fileAt?_seenIn (t : FileTree) (place : Place) :
    (place.seenIn t).fileAt? = place.fileAt? := by
  rcases place with ⟨loc, entry, slash⟩ | ⟨dir, name, slash⟩
  · rcases entry <;> rcases slash <;> rfl
  · rw [seenIn]
    split
    · rcases slash <;> rfl
    · rfl

namespace FileTree

variable {t t' t'' : FileTree} {loc : Location} {dir path : Path} {rs ss : List Relation}

/-- The path stands for the file at the location: opening the path would empty the file or make it.
-/
def StandsFor (t : FileTree) (path : Path) (loc : Location) : Prop :=
  ∃ place, t.locate path = .ok place ∧ place.fileAt? = some loc

/-- The paths of the relations in the directory stand for different files. -/
def StandApart (t : FileTree) (dir : Path) : Prop :=
  ∀ {r s : Relation} {loc : Location}, t.StandsFor (dir.join r.name) loc →
    t.StandsFor (dir.join s.name) loc → r = s

/-- The path leads to an empty file, or to a device. -/
def EmptyAt (t : FileTree) (path : Path) : Prop :=
  ∃ loc, t.locate path = .ok (.occupied loc (.file .empty) false) ∨
    ∃ d, t.locate path = .ok (.occupied loc (.device d) false)

/-- A path that was just opened leads to an empty file or to a device. -/
theorem Opened.emptyAt {h : Handle} (ho : t.Opened path h) : t.EmptyAt path := by
  rcases h with ⟨loc, offset⟩ | d
  · exact ⟨loc, Or.inl ho.2⟩
  · obtain ⟨loc, hdevice⟩ := ho
    exact ⟨loc, Or.inr ⟨d, hdevice⟩⟩

theorem StandsFor.takesFile (h : t.StandsFor path loc) : t.TakesFile loc := by
  obtain ⟨place, hplace, hloc⟩ := h
  have hagrees := agrees_of_locate hplace
  rcases place with ⟨m, ⟨c⟩ | _ | target | d, ⟨⟩⟩ | ⟨d, n, ⟨⟩⟩ <;> cases hloc
  · rcases hagrees with hdir | hget
    · cases hdir
    · exact Or.inr ⟨c, hget⟩
  · exact Or.inl hagrees

/-! ### What a path stands for -/

/-- **A walk that failed** fails in an extended tree too. The reason can be another one: where there
was nothing, there may be a file now, and a walk goes on behind neither. -/
theorem Extends.walk_error (hext : t.Extends t') {follow : Bool} {links : Nat} {here : Location}
    {steps : List Name} {e : FileError} (h : t.walk follow links here steps = .error e) :
    ∃ e', t'.walk follow links here steps = .error e' := by
  fun_induction walk t follow links here steps with
  | case1 | case5 | case8 | case11 => cases h
  | case2 _ _ _ _ hname ih =>
    rw [walk, if_pos hname]
    exact ih h
  | case3 _ _ _ hname ih =>
    rw [walk, if_neg hname, if_pos rfl]
    exact ih h
  | case4 _ here name rest h₁ h₂ h₃ =>
    rw [walk, if_neg h₁, if_neg h₂, if_pos h₃]
    exact ⟨_, rfl⟩
  | case6 _ here name rest h₁ h₂ h₃ last hget hmore =>
    rw [walk, if_neg h₁, if_neg h₂, if_neg h₃]
    rcases hext.get?_none hget with hget' | ⟨c, hget'⟩
    · simp only [hget']
      exact ⟨_, if_neg hmore⟩
    · simp only [hget']
      exact ⟨_, if_neg hmore⟩
  | case7 _ here name rest h₁ h₂ h₃ hget ih =>
    rw [walk_of_dir h₁ h₂ h₃ (hext.get?_eq hget (by simp))]
    exact ih h
  | case9 here name rest h₁ h₂ h₃ target hget hgo =>
    rw [walk, if_neg h₁, if_neg h₂, if_neg h₃]
    simp only [hext.get?_eq hget (by simp), if_neg hgo]
    exact ⟨_, rfl⟩
  | case10 here name rest h₁ h₂ h₃ target hget hgo n ih =>
    rw [walk_of_link h₁ h₂ h₃ (hext.get?_eq hget (by simp)) hgo]
    exact ih h
  | case12 _ here name rest h₁ h₂ h₃ last entry hdir hlink hget hmore =>
    rw [walk, if_neg h₁, if_neg h₂, if_neg h₃]
    rcases entry with c | _ | target | d
    · simp only [hext.get?_file hget]
      exact ⟨_, if_neg hmore⟩
    · exact absurd rfl hdir
    · exact absurd rfl (hlink target)
    · simp only [hext.get?_eq hget (by simp)]
      exact ⟨_, if_neg hmore⟩

theorem Extends.locate_error (hext : t.Extends t') {e : FileError} (h : t.locate path = .error e) :
    ∃ e', t'.locate path = .error e' := by
  rcases hlocate : t'.locate path with e' | place
  · exact ⟨e', rfl⟩
  · obtain ⟨hpath, hwalk⟩ := locateSteps_eq_ok_iff.1 hlocate
    rcases hbefore : t.walk true maxLinks (if path.isAbsolute then [] else t.workDir) path.names
      with e' | place'
    · obtain ⟨e'', hfails⟩ := hext.walk_error hbefore
      rw [hext.workDir_eq, hfails] at hwalk
      cases hwalk
    · have hleads : t.locate path = .ok place' := locateSteps_eq_ok_iff.2 ⟨hpath, hbefore⟩
      rw [h] at hleads
      cases hleads

/-- **A path stands for the same file** in an extended tree. -/
theorem Extends.standsFor_iff (hext : t.Extends t') :
    t'.StandsFor path loc ↔ t.StandsFor path loc := by
  rcases hlocate : t.locate path with e | place
  · obtain ⟨e', hlater⟩ := hext.locate_error hlocate
    rw [StandsFor, StandsFor, hlocate, hlater]
    simp
  · rw [StandsFor, StandsFor, hlocate, hext.locate_eq hlocate]
    simp [Place.fileAt?_seenIn]

/-! ### Opening -/

/-- **The files of the relations were opened**, and nothing else was done: each one is empty, or is
a device, and every location is as it was or is that of one of the files. -/
structure OpenedOnly (t t' : FileTree) (dir : Path) (rs : List Relation) : Prop where
  workDir_eq : t'.workDir = t.workDir
  emptyAt : ∀ r ∈ rs, t'.EmptyAt (dir.join r.name)
  get?_eq_or : ∀ loc, t'.get? loc = t.get? loc ∨
    (∃ r ∈ rs, t.StandsFor (dir.join r.name) loc) ∧ t'.get? loc = some (.file .empty)

namespace OpenedOnly

theorem nil (t : FileTree) (dir : Path) : t.OpenedOnly t dir [] :=
  ⟨rfl, fun _ hr ↦ absurd hr List.not_mem_nil, fun _ ↦ Or.inl rfl⟩

theorem extends_tree (h : t.OpenedOnly t' dir rs) : t.Extends t' := by
  refine ⟨h.workDir_eq, fun loc ↦ (h.get?_eq_or loc).imp_right ?_⟩
  rintro ⟨⟨r, -, hstands⟩, hempty⟩
  exact ⟨hstands.takesFile, _, hempty⟩

/-- What was empty stays empty. -/
theorem emptyAt_of_emptyAt (h : t.OpenedOnly t' dir rs) (hempty : t.EmptyAt path) :
    t'.EmptyAt path := by
  obtain ⟨loc, hfile | ⟨d, hdevice⟩⟩ := hempty
  · refine ⟨loc, Or.inl ?_⟩
    have hcontent : t'.content loc = .empty := by
      rcases h.get?_eq_or loc with heq | ⟨-, hopened⟩
      · exact content_of_get? (heq.trans (get?_of_locate hfile))
      · exact content_of_get? hopened
    rw [h.extends_tree.locate_file hfile, hcontent]
  · exact ⟨loc, Or.inr ⟨d, h.extends_tree.locate_eq hdevice⟩⟩

/-- **Some files, and then some more.** What the later paths stand for is what they stood for at
first. -/
theorem append (h : t.OpenedOnly t' dir rs) (h' : t'.OpenedOnly t'' dir ss) :
    t.OpenedOnly t'' dir (rs ++ ss) := by
  refine ⟨h'.workDir_eq.trans h.workDir_eq, fun r hr ↦ ?_, fun loc ↦ ?_⟩
  · rcases List.mem_append.1 hr with hfirst | hlater
    · exact h'.emptyAt_of_emptyAt (h.emptyAt r hfirst)
    · exact h'.emptyAt r hlater
  · rcases h'.get?_eq_or loc with heq' | ⟨⟨s, hs, hstands⟩, hempty⟩
    · rcases h.get?_eq_or loc with heq | ⟨⟨r, hr, hstands⟩, hempty⟩
      · exact Or.inl (heq'.trans heq)
      · exact Or.inr ⟨⟨r, List.mem_append_left ss hr, hstands⟩, heq'.trans hempty⟩
    · exact Or.inr
        ⟨⟨s, List.mem_append_right rs hs, h.extends_tree.standsFor_iff.1 hstands⟩, hempty⟩

/-- **The files of the other relations are as they were**, if no two relations share a file. -/
theorem get?_of_standApart (h : t.OpenedOnly t' dir rs) (hapart : t.StandApart dir) {s : Relation}
    (hs : s ∉ rs) (hstands : t.StandsFor (dir.join s.name) loc) : t'.get? loc = t.get? loc := by
  rcases h.get?_eq_or loc with heq | ⟨⟨r, hr, hother⟩, -⟩
  · exact heq
  · obtain rfl := hapart hother hstands
    exact absurd hr hs

end OpenedOnly

/-- What opening a path does to the tree: nothing, or the file for which the path stands is emptied
or made. -/
theorem create_cases {h : Handle} (hc : t.create path = .ok (t', h)) :
    t' = t ∨ ∃ loc, t.StandsFor path loc ∧ t' = t.put loc (.file .empty) := by
  unfold create at hc
  split at hc
  · cases hc
  · rename_i d n slash hlocate
    rcases slash with _ | _ <;> cases hc
    exact Or.inr ⟨_, ⟨_, hlocate, rfl⟩, rfl⟩
  · rename_i loc entry slash hlocate
    rcases entry with c | _ | target | d <;> rcases slash with _ | _ <;> cases hc
    · exact Or.inr ⟨loc, ⟨_, hlocate, rfl⟩, rfl⟩
    · exact Or.inl rfl

/-- Opening the path of one relation. -/
theorem openedOnly_of_create {r : Relation} {h : Handle}
    (hc : t.create (dir.join r.name) = .ok (t', h)) : t.OpenedOnly t' dir [r] := by
  have hthis : ∀ s ∈ [r], t'.EmptyAt (dir.join s.name) := by
    intro s hs
    rw [List.mem_singleton.1 hs]
    exact (opened_of_create hc).2.emptyAt
  rcases create_cases hc with rfl | ⟨loc, hstands, rfl⟩
  · exact ⟨rfl, hthis, fun _ ↦ Or.inl rfl⟩
  · refine ⟨rfl, hthis, fun m ↦ ?_⟩
    by_cases hm : m = loc
    · subst hm
      exact Or.inr ⟨⟨r, List.mem_singleton_self r, hstands⟩,
        get?_put_self t hstands.takesFile.ne_nil _⟩
    · exact Or.inl (get?_put_of_ne t hm _)

/-- The tree in which the relation files are opened. The directory has been made, or that was tried,
if it was missing and may be made. -/
def withDirectory (t : FileTree) (dir : Path) (makeDir : Bool) : FileTree :=
  if makeDir && !t.isDir dir then (t.makeDirs dir).1 else t

theorem dirsMade_withDirectory (t : FileTree) (dir : Path) (makeDir : Bool) :
    t.DirsMade (t.withDirectory dir makeDir) dir.ancestors := by
  rw [withDirectory]
  split
  · exact dirsMade_makeDirs t dir
  · exact DirsMade.refl t _

theorem withDirectory_of_or {makeDir : Bool} (h : makeDir = false ∨ t.isDir dir = true) :
    t.withDirectory dir makeDir = t := by
  rcases h with h | h <;> simp [withDirectory, h]

end FileTree

/-! ### Paths in a directory -/

/-- Different relations have different paths. -/
theorem Path.join_name_injective (dir : Path) {r s : Relation}
    (h : dir.join r.name = dir.join s.name) : r = s := by
  suffices hbytes : (ofString r.name).bytes = (ofString s.name).bytes from
    Relation.name_injective (Text.Utf8.toUTF8_toList_injective hbytes)
  rw [join, join] at h
  split at h
  · exact congrArg bytes h
  · split at h
    · exact List.append_cancel_left (congrArg bytes h)
    · exact (List.cons.inj (List.append_cancel_left (congrArg bytes h))).2

/-- No relation has the path of the directory. -/
theorem Path.join_name_ne (dir : Path) (r : Relation) : dir.join r.name ≠ dir := by
  have hname : (ofString r.name).bytes ≠ [] := by
    rcases r <;> decide
  intro h
  rw [join] at h
  split at h
  · rename_i hlast
    rw [← h, List.getLast?_eq_none_iff] at hlast
    exact hname hlast
  · split at h
    · exact hname (List.append_right_eq_self.1 (congrArg bytes h))
    · exact List.cons_ne_nil _ _ (List.append_right_eq_self.1 (congrArg bytes h))

/-! ### All relations -/

namespace RelationFiles

/-- **Opening in turn.** The relations before the first refusal have their files opened, and the
refusal is that of the next relation's path. -/
theorem openAll_cases (dir : Path) (t : FileTree) (files : Relation.Table BufferedFile)
    (rs : List Relation) :
    ∃ before after, rs = before ++ after ∧ t.OpenedOnly (openAll dir t files rs).1 dir before ∧
      ((after = [] ∧ ∃ files', (openAll dir t files rs).2 = .ok files') ∨
        ∃ r later e, after = r :: later ∧
          (openAll dir t files rs).2 = .error (.outputOpen (dir.join r.name) (.file e))) := by
  induction rs generalizing t files with
  | nil => exact ⟨[], [], rfl, FileTree.OpenedOnly.nil t dir, Or.inl ⟨rfl, files, rfl⟩⟩
  | cons r rs ih =>
    rw [openAll]
    rcases hc : t.create (dir.join r.name) with e | ⟨t₁, h⟩
    · exact ⟨[], r :: rs, rfl, FileTree.OpenedOnly.nil t dir, Or.inr ⟨r, rs, e, rfl, rfl⟩⟩
    · obtain ⟨before, after, rfl, hopened, hend⟩ := ih t₁ (files.set r ⟨h, .empty⟩)
      exact ⟨r :: before, after, rfl, (FileTree.openedOnly_of_create hc).append hopened, hend⟩

/-- What opening in a directory comes to. -/
theorem create_cases {t : FileTree} {dir : Path} (h : t.isDir dir = true) :
    ∃ before after, Relation.all = before ++ after ∧
      t.OpenedOnly (create t dir).tree dir before ∧
      ((after = [] ∧ ∃ files, create t dir = .opened files) ∨
        ∃ r later e, after = r :: later ∧
          create t dir =
            .refused (.outputOpen (dir.join r.name) (.file e)) (create t dir).tree) := by
  obtain ⟨before, after, hall, hopened, hend⟩ := openAll_cases dir t noFiles Relation.all
  refine ⟨before, after, hall, ?_⟩
  rw [create, if_pos h]
  rcases hresult : openAll dir t noFiles Relation.all with ⟨t', e | files⟩
  · rw [hresult] at hopened hend
    rcases hend with ⟨-, files', hok⟩ | ⟨r, later, c, hafter, herror⟩
    · cases hok
    · obtain rfl : e = _ := Except.error.inj herror
      exact ⟨hopened, Or.inr ⟨r, later, c, hafter, rfl⟩⟩
  · rw [hresult] at hopened hend
    rcases hend with ⟨hafter, -⟩ | ⟨r, later, c, -, herror⟩
    · exact ⟨hopened, Or.inl ⟨hafter, _, rfl⟩⟩
    · cases herror

/-- **What opening comes to.** The directory cannot be made; or it is missing, and nothing was done
about it; or it is there, and files were opened in it. -/
theorem createIn_cases (t : FileTree) (dir : Path) (makeDir : Bool) :
    (makeDir = true ∧ dir.isEmpty = false ∧ ∃ e, createIn t dir makeDir =
      .refused (.outputOpen dir (.file e)) (t.withDirectory dir makeDir)) ∨
    (t.isDir dir = false ∧ (makeDir = false ∨ dir.isEmpty = true) ∧
      createIn t dir makeDir = .refused (.outputDirMissing dir) t) ∨
    (t.withDirectory dir makeDir).isDir dir = true ∧
      createIn t dir makeDir = create (t.withDirectory dir makeDir) dir := by
  by_cases hdir : t.isDir dir = true
  · refine Or.inr (Or.inr ?_)
    rw [FileTree.withDirectory_of_or (Or.inr hdir)]
    exact ⟨hdir, by simp [createIn, hdir]⟩
  have hmissing : create t dir = .refused (.outputDirMissing dir) t := if_neg hdir
  rw [Bool.not_eq_true] at hdir
  rcases makeDir with _ | _
  · exact Or.inr (Or.inl ⟨hdir, Or.inl rfl, hmissing⟩)
  rcases hmake : t.makeDirs dir with ⟨t₁, _ | e⟩
  · have hwith : t.withDirectory dir true = t₁ := by simp [FileTree.withDirectory, hdir, hmake]
    have hcreate : createIn t dir true = create t₁ dir := by simp [createIn, hdir, hmake]
    have hwell := FileTree.isDir_of_makeDirs (congrArg Prod.snd hmake)
    rw [hmake] at hwell
    rcases hwell with hempty | hmade
    · rw [FileTree.makeDirs_of_isEmpty hempty] at hmake
      obtain rfl : t = t₁ := congrArg Prod.fst hmake
      exact Or.inr (Or.inl ⟨hdir, Or.inr hempty, hcreate.trans hmissing⟩)
    · rw [hwith]
      exact Or.inr (Or.inr ⟨hmade, hcreate⟩)
  · refine Or.inl ⟨rfl, ?_, e, ?_⟩
    · -- for the empty path nothing is made and nothing fails
      rw [Bool.eq_false_iff]
      intro hempty
      rw [FileTree.makeDirs_of_isEmpty hempty] at hmake
      cases hmake
    · simp [createIn, FileTree.withDirectory, hdir, hmake]

end RelationFiles

/-- **Opening the relation files** in a directory, which is made if it is missing and may be.

* Before files are opened, the tree changes only if the directory may be made and is missing; and
  then only by directories where there was nothing, to which the path or one of those that it leads
  through leads.
* If all files are open, each of them is empty, or is a device, and nothing else was done.
* The directory is reported missing if and only if the path does not lead to a directory and is
  empty or is not to be made one. Then nothing was done at all.
* If the file of a relation is refused, the files of the relations before it in the table were
  opened, and nothing else was done. So its own file and those of the later relations are as they
  were, unless two relations share a file.
* If the directory itself is refused, no file was opened.
* There are no other errors. -/
theorem opening_framed (t : FileTree) (dir : Path) (makeDir : Bool) :
    (t.DirsMade (t.withDirectory dir makeDir) dir.ancestors ∧
      (makeDir = false ∨ t.isDir dir = true → t.withDirectory dir makeDir = t)) ∧
    (∀ files, RelationFiles.createIn t dir makeDir = .opened files →
      (t.withDirectory dir makeDir).OpenedOnly files.tree dir Relation.all) ∧
    ((∃ path t', RelationFiles.createIn t dir makeDir = .refused (.outputDirMissing path) t') ↔
      t.isDir dir = false ∧ (makeDir = false ∨ dir.isEmpty = true)) ∧
    (∀ path t', RelationFiles.createIn t dir makeDir = .refused (.outputDirMissing path) t' →
      path = dir ∧ t' = t) ∧
    (∀ r c t', RelationFiles.createIn t dir makeDir =
        .refused (.outputOpen (dir.join r.name) c) t' →
      ∃ before after, Relation.all = before ++ r :: after ∧
        (t.withDirectory dir makeDir).OpenedOnly t' dir before ∧
        ((t.withDirectory dir makeDir).StandApart dir → ∀ s ∈ r :: after, ∀ loc,
          (t.withDirectory dir makeDir).StandsFor (dir.join s.name) loc →
            t'.get? loc = (t.withDirectory dir makeDir).get? loc)) ∧
    (∀ c t', RelationFiles.createIn t dir makeDir = .refused (.outputOpen dir c) t' →
      makeDir = true ∧ t' = t.withDirectory dir makeDir) ∧
    ∀ e t', RelationFiles.createIn t dir makeDir = .refused e t' →
      e = .outputDirMissing dir ∨ ∃ c, e = .outputOpen dir c ∨
        ∃ r : Relation, e = .outputOpen (dir.join r.name) c := by
  refine ⟨⟨t.dirsMade_withDirectory dir makeDir, FileTree.withDirectory_of_or⟩, ?_⟩
  rcases RelationFiles.createIn_cases t dir makeDir with ⟨hmake, hpath, c, hrefused⟩ |
    ⟨hdir, hnot, hrefused⟩ | ⟨hdir, hcreate⟩
  · -- the directory was refused, so it was to be made and its path is not empty
    simp only [hrefused, Opening.refused.injEq]
    refine ⟨by simp, ?_, by simp, ?_, ?_, ?_⟩
    · simp [hmake, hpath]
    · rintro r c' t' ⟨herror, -⟩
      exact absurd (Error.outputOpen.inj herror).1 (Path.join_name_ne dir r).symm
    · rintro c' t' ⟨-, rfl⟩
      exact ⟨hmake, rfl⟩
    · rintro e t' ⟨rfl, -⟩
      exact Or.inr ⟨_, Or.inl rfl⟩
  · -- the directory is missing
    simp only [hrefused, Opening.refused.injEq]
    refine ⟨by simp, ?_, ?_, by simp, by simp, ?_⟩
    · simp [hdir, hnot]
    · rintro path t' ⟨herror, rfl⟩
      exact ⟨(Error.outputDirMissing.inj herror).symm, rfl⟩
    · rintro e t' ⟨rfl, -⟩
      exact Or.inl rfl
  · -- the directory is there, so it is not reported missing
    have hthere : ¬(t.isDir dir = false ∧ (makeDir = false ∨ dir.isEmpty = true)) := by
      rintro ⟨hmissing, hmake | hempty⟩
      · rw [FileTree.withDirectory_of_or (Or.inl hmake), hmissing] at hdir
        cases hdir
      · rw [FileTree.isDir_of_isEmpty hempty] at hdir
        cases hdir
    obtain ⟨before, after, hall, hopened, ⟨rfl, files, hfiles⟩ | ⟨r, later, c, rfl, hrefused⟩⟩ :=
      RelationFiles.create_cases hdir
    · rw [List.append_nil] at hall
      rw [← hall, hfiles] at hopened
      simp only [hcreate, hfiles, Opening.opened.injEq]
      refine ⟨?_, ?_, by simp, by simp, by simp, by simp⟩
      · rintro _ rfl
        exact hopened
      · simpa using hthere
    · generalize (RelationFiles.create (t.withDirectory dir makeDir) dir).tree = left at *
      simp only [hcreate, hrefused, Opening.refused.injEq]
      refine ⟨by simp, ?_, by simp, ?_, ?_, ?_⟩
      · simpa using hthere
      · rintro s c' t' ⟨herror, rfl⟩
        obtain rfl := Path.join_name_injective dir (Error.outputOpen.inj herror).1
        refine ⟨before, later, hall, hopened, fun hapart s hs loc ↦ ?_⟩
        -- the table has every relation once
        have hnodup : (before ++ r :: later).Nodup := hall ▸ Relation.nodup_all
        exact hopened.get?_of_standApart hapart fun hbefore ↦
          List.disjoint_of_nodup_append hnodup hbefore hs
      · rintro c' t' ⟨herror, -⟩
        exact absurd (Error.outputOpen.inj herror).1 (Path.join_name_ne dir r)
      · rintro e t' ⟨rfl, -⟩
        exact Or.inr ⟨_, Or.inr ⟨r, rfl⟩⟩

/-- A tree with two relation files of an earlier run, and between them a directory that has the name
of a third. -/
def obstructedTree : FileTree where
  entries := [(.ofStrings ["people"], .dir),
    (.ofStrings ["people", "hasCountry"], .file "Q1\tQ2\n".toUTF8),
    (.ofStrings ["people", "hasBirthPlace"], .dir),
    (.ofStrings ["people", "hasDeathPlace"], .file "Q3\tQ4\n".toUTF8)]

/-- What is left of it when the relation files were to be opened. -/
def obstructedLeft : FileTree where
  entries := [(.ofStrings ["people", "hasCountry"], .file .empty), (.ofStrings ["people"], .dir),
    (.ofStrings ["people", "hasBirthPlace"], .dir),
    (.ofStrings ["people", "hasDeathPlace"], .file "Q3\tQ4\n".toUTF8)]

theorem createIn_obstructedTree (makeDir : Bool) :
    RelationFiles.createIn obstructedTree (.ofString "people") makeDir =
      .refused (.outputOpen ((Path.ofString "people").join Relation.hasBirthPlace.name)
        (.file .isDirectory)) obstructedLeft := by
  rcases makeDir with _ | _ <;> cbv

theorem standApart_obstructedTree : obstructedTree.StandApart (.ofString "people") := by
  have hlocate : ∀ r : Relation, obstructedTree.locate ((Path.ofString "people").join r.name) =
      .ok (match obstructedTree.get? (.ofStrings ["people", r.name]) with
        | some e => .occupied (.ofStrings ["people", r.name]) e false
        | none => .vacant (.ofStrings ["people"]) (Path.ofString r.name).bytes false) := by
    intro r
    rcases r <;> cbv
  have hstands : ∀ {r : Relation} {loc : Location},
      obstructedTree.StandsFor ((Path.ofString "people").join r.name) loc →
        loc = .ofStrings ["people", r.name] := by
    rintro r loc ⟨place, hplace, hloc⟩
    obtain rfl := Except.ok.inj ((hlocate r).symm.trans hplace)
    rcases hget : obstructedTree.get? (.ofStrings ["people", r.name]) with _ | ⟨c⟩ | _ | target | d
    all_goals
      rw [hget] at hloc
      cases hloc
    · rfl
    · rfl
  intro r s loc hr hs
  exact peopleLocation_injective ((hstands hr).symm.trans (hstands hs))

/-- The first file is emptied and the third is kept, as the second cannot be opened. -/
theorem opening_framed_obstructed :
    obstructedTree.StandApart (.ofString "people") ∧
      RelationFiles.createIn obstructedTree (.ofString "people") false =
        .refused (.outputOpen ((Path.ofString "people").join Relation.hasBirthPlace.name)
          (.file .isDirectory)) obstructedLeft ∧
      obstructedLeft.EmptyAt ((Path.ofString "people").join Relation.hasCountry.name) ∧
      obstructedLeft.get? (.ofStrings ["people", "hasDeathPlace"]) =
        some (.file "Q3\tQ4\n".toUTF8) := by
  have hrefused := createIn_obstructedTree false
  have hsame : obstructedTree.withDirectory (.ofString "people") false = obstructedTree := rfl
  obtain ⟨-, -, -, -, hfile, -⟩ := opening_framed obstructedTree (.ofString "people") false
  obtain ⟨before, after, hall, hopened, hlater⟩ := hfile _ _ _ hrefused
  rw [hsame] at hopened hlater
  -- the second relation in the table comes behind the first alone
  obtain ⟨rfl, hthird⟩ : before = [.hasCountry] ∧ .hasDeathPlace ∈ after := by
    rcases before with _ | ⟨r, _ | ⟨s, before⟩⟩
    · cases hall
    · cases hall
      exact ⟨rfl, by simp⟩
    · have hnodup := Relation.nodup_all
      rw [hall] at hnodup
      obtain ⟨rfl, -⟩ := List.cons.inj (List.cons.inj hall).2
      simp at hnodup
  have hold : obstructedTree.StandsFor ((Path.ofString "people").join Relation.hasDeathPlace.name)
      (.ofStrings ["people", "hasDeathPlace"]) :=
    ⟨.occupied (.ofStrings ["people", "hasDeathPlace"]) (.file "Q3\tQ4\n".toUTF8) false, by cbv,
      rfl⟩
  refine ⟨standApart_obstructedTree, hrefused, hopened.emptyAt .hasCountry (by simp), ?_⟩
  exact hlater standApart_obstructedTree _ (List.mem_cons_of_mem _ hthird) _ hold

end PersonRelations
