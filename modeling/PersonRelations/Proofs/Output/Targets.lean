import PersonRelations.Output.RelationFiles
import PersonRelations.Proofs.Extraction.Calls
import PersonRelations.Proofs.Output.Appending

/-!
# What the paths of the relations lead to

Each relation has a path in the output directory. It can lead to a file or, through a link, to a
device, and two paths can lead to one file; opening the relation files empties what is there or
makes it, and gives a handle to it.

* `FileTree.LeadsTo`: the paths lead to files and to the full device (`Target`), and no two of them
  to one file. `FileTree.DistinctFiles` is the case of thirteen files.
* `RelationFiles.opened_of_createIn`: opening gives handles to what the paths lead to.
* `RelationFiles.extends_close_writeEach`: writing and flushing only extend the tree, whatever the
  paths lead to. So a path leads to the same file as long as the files are open
  (`RelationFiles.eq_of_opened`), and that file can be read through it
  (`RelationFiles.openRead_of_opened`).
-/

namespace PersonRelations

/-! ### Thirteen files -/

/-- The paths of the relations in the directory lead to files, and no two to one file. -/
def FileTree.DistinctFiles (t : FileTree) (dir : Path) : Prop :=
  ∃ loc : Relation → Location, Function.Injective loc ∧
    ∀ r, ∃ c slash, t.locate (dir.join r.name) = .ok (.occupied (loc r) (.file c) slash)

/-- Different files stay different files while files are written. -/
theorem FileTree.Extends.distinctFiles {t t' : FileTree} {dir : Path} (hext : t.Extends t')
    (h : t.DistinctFiles dir) : t'.DistinctFiles dir := by
  obtain ⟨loc, hinj, hloc⟩ := h
  refine ⟨loc, hinj, fun r ↦ ?_⟩
  obtain ⟨c, slash, hr⟩ := hloc r
  exact ⟨t'.content (loc r), slash, hext.locate_file hr⟩

/-- What a relation's path leads to. -/
inductive Target where
  /-- A file. -/
  | file (loc : Location)
  /-- The device that takes nothing. -/
  | full
  deriving DecidableEq, Repr

/-- The paths of the relations in the directory lead to the targets, and no two to one file. -/
structure FileTree.LeadsTo (t : FileTree) (dir : Path) (target : Relation → Target) : Prop where
  locate_file : ∀ {r loc}, target r = .file loc →
    ∃ c slash, t.locate (dir.join r.name) = .ok (.occupied loc (.file c) slash)
  locate_full : ∀ {r}, target r = .full →
    ∃ loc slash, t.locate (dir.join r.name) = .ok (.occupied loc (.device .full) slash)
  eq_of_file : ∀ {r s loc}, target r = .file loc → target s = .file loc → r = s

theorem FileTree.DistinctFiles.exists_leadsTo {t : FileTree} {dir : Path}
    (h : t.DistinctFiles dir) :
    ∃ loc : Relation → Location, t.LeadsTo dir fun r ↦ .file (loc r) := by
  obtain ⟨loc, hinj, hloc⟩ := h
  refine ⟨loc, ⟨?_, ?_, ?_⟩⟩
  · rintro r _ ⟨rfl⟩
    exact hloc r
  · rintro r ⟨⟩
  · rintro r s _ ⟨rfl⟩ hs
    exact hinj (Target.file.inj hs).symm

namespace RelationFiles

variable {x : RelationFiles} {t t' : FileTree} {dir : Path} {loc : Relation → Location}
  {target : Relation → Target} {data : Relation → ByteArray}

/-- The file of the relation is open and nothing was written to it. -/
def OpenedIn (dir : Path) (t : FileTree) (files : Relation.Table BufferedFile) (r : Relation) :
    Prop :=
  t.Opened (dir.join r.name) (files.get r).handle ∧ (files.get r).buffer = .empty

theorem opened_of_openAll {files files' : Relation.Table BufferedFile} {rs : List Relation}
    (h : openAll dir t files rs = (t', .ok files'))
    (hfiles : ∀ r, r ∉ rs → OpenedIn dir t files r) :
    ∀ r, OpenedIn dir t' files' r := by
  induction rs generalizing t files with
  | nil =>
    cases h
    exact fun r ↦ hfiles r List.not_mem_nil
  | cons s rs ih =>
    rw [openAll] at h
    split at h
    · cases h
    · rename_i t₁ h₁ hc
      obtain ⟨hemptied, hopened⟩ := FileTree.opened_of_create hc
      refine ih h fun r hr ↦ ?_
      -- the file just opened, or one opened before, which opening this one leaves open
      by_cases hrs : r = s
      · subst hrs
        rw [OpenedIn, Relation.Table.get_set_self]
        exact ⟨hopened, rfl⟩
      · rw [OpenedIn, Relation.Table.get_set_of_ne _ hrs]
        obtain ⟨hbefore, hbuffer⟩ := hfiles r (by simp [hrs, hr])
        exact ⟨hbefore.mono hemptied, hbuffer⟩

/-- **Opening the relation files** gives a handle to what each path leads to. -/
theorem opened_of_createIn {makeDir : Bool} (h : createIn t dir makeDir = .opened x) :
    ∀ r, OpenedIn dir x.tree x.files r := by
  -- the directory may have been made first, so this is said of every tree
  have hcreate : ∀ {t : FileTree}, create t dir = .opened x →
      ∀ r, OpenedIn dir x.tree x.files r := by
    intro t h
    unfold create at h
    split at h
    · split at h
      · cases h
      · rename_i t₁ files hall
        cases h
        exact opened_of_openAll hall fun r hr ↦ absurd (Relation.mem_all r) hr
    · cases h
  unfold createIn at h
  split at h
  · split at h
    · cases h
    · exact hcreate h
  · exact hcreate h

/-- Handles to different files show that the paths lead to different files. -/
theorem distinctFiles_of_handles (h : ∀ r, OpenedIn dir x.tree x.files r)
    (hinj : Function.Injective loc) (hloc : ∀ r, (x.files.get r).handle = .file (loc r) 0) :
    x.tree.DistinctFiles dir := by
  refine ⟨loc, hinj, fun r ↦ ⟨.empty, false, ?_⟩⟩
  have hopened := (h r).1
  rw [hloc r] at hopened
  exact hopened.2

/-! ### Whatever the paths lead to -/

/-- The files are open in a tree that extends the given one. -/
structure Backed (t : FileTree) (x : RelationFiles) : Prop where
  extends_tree : t.Extends x.tree
  backs : ∀ r, x.tree.Backs (x.files.get r).handle

theorem Backed.of_opened (h : ∀ r, OpenedIn dir x.tree x.files r) : Backed x.tree x :=
  ⟨FileTree.Extends.refl _, fun r ↦ (h r).1.backs⟩

/-- An operation on one file leaves the others open. -/
theorem Backed.update (h : Backed t x) {y : FileTree × BufferedFile × Option FileError}
    (hy : BufferedFile.Kept x.tree y) (r : Relation) :
    Backed t { x with tree := y.1, files := x.files.set r y.2.1 } := by
  refine ⟨h.extends_tree.trans hy.extends_tree, fun s ↦ ?_⟩
  by_cases hs : s = r
  · subst hs
    simpa using hy.backs
  · simpa [hs] using (h.backs s).mono hy.extends_tree

theorem backed_writeEach (h : Backed t x) (rs : List Record) :
    Backed t (Sink.writeEach x rs) := by
  induction rs generalizing x with
  | nil => exact h
  | cons r rs ih =>
    exact ih (h.update (BufferedFile.kept_writeAll (h.backs r.relation) (pieces r)) r.relation)

theorem backed_flushAll (h : Backed t x) (rs : List Relation) : Backed t (x.flushAll rs).1 := by
  induction rs generalizing x with
  | nil => exact h
  | cons r rs ih => exact ih (h.update (BufferedFile.kept_flush (h.backs r)) r)

/-- **Writing and flushing only extend the tree.** -/
theorem extends_close_writeEach (h : ∀ r, OpenedIn dir x.tree x.files r) (rs : List Record) :
    x.tree.Extends (Sink.writeEach x rs).close :=
  (backed_flushAll (backed_writeEach (Backed.of_opened h) rs) Relation.all).extends_tree

theorem extends_close_writeAll (h : ∀ r, OpenedIn dir x.tree x.files r) (rs : List Record) :
    x.tree.Extends (Sink.writeAll x rs).1.close := by
  rcases Sink.writeAll_cases x rs with hall | ⟨before, r, after, e, -, -, -, hrefused⟩
  · rw [hall]
    exact extends_close_writeEach h rs
  · rw [hrefused]
    exact extends_close_writeEach h (before ++ [r])

/-! ### Where the paths still lead -/

/-- **Opened paths lead where they led**, as long as only files change. -/
theorem opened_later {r : Relation} (h : OpenedIn dir x.tree x.files r) (hext : x.tree.Extends t) :
    (∃ l, x.files.get r = ⟨.file l 0, .empty⟩ ∧
      x.tree.locate (dir.join r.name) = .ok (.occupied l (.file .empty) false) ∧
      t.locate (dir.join r.name) = .ok (.occupied l (.file (t.content l)) false)) ∨
    ∃ l d, x.files.get r = ⟨.device d, .empty⟩ ∧
      t.locate (dir.join r.name) = .ok (.occupied l (.device d) false) := by
  obtain ⟨hopened, hbuffer⟩ := h
  rcases hf : x.files.get r with ⟨handle, buffer⟩
  rw [hf] at hopened hbuffer
  obtain rfl : buffer = .empty := hbuffer
  cases handle with
  | file l offset =>
    obtain ⟨rfl, hthen⟩ := hopened
    exact Or.inl ⟨l, rfl, hthen, hext.locate_file hthen⟩
  | device d =>
    obtain ⟨l, hthen⟩ := hopened
    exact Or.inr ⟨l, d, rfl, hext.locate_eq hthen⟩

/-- If a path leads to a file in the end, its handle is to that file. -/
theorem eq_of_opened {r : Relation} {l : Location} {c : ByteArray} {slash : Bool}
    (h : OpenedIn dir x.tree x.files r) (hext : x.tree.Extends t)
    (hlater : t.locate (dir.join r.name) = .ok (.occupied l (.file c) slash)) :
    x.files.get r = ⟨.file l 0, .empty⟩ ∧
      x.tree.locate (dir.join r.name) = .ok (.occupied l (.file .empty) false) := by
  rcases opened_later h hext with ⟨m, hfile, hthen, hnow⟩ | ⟨m, d, -, hnow⟩
  · rw [hnow] at hlater
    cases hlater
    exact ⟨hfile, hthen⟩
  · rw [hnow] at hlater
    cases hlater

/-- If a path leads to the full device in the end, its handle is to that device. -/
theorem eq_of_opened_full {r : Relation} {l : Location} {slash : Bool}
    (h : OpenedIn dir x.tree x.files r) (hext : x.tree.Extends t)
    (hlater : t.locate (dir.join r.name) = .ok (.occupied l (.device .full) slash)) :
    x.files.get r = ⟨.device .full, .empty⟩ := by
  rcases opened_later h hext with ⟨m, -, -, hnow⟩ | ⟨m, d, hfile, hnow⟩
  · rw [hnow] at hlater
    cases hlater
  · rw [hnow] at hlater
    cases hlater
    exact hfile

/-- A file can be read through its path as long as only files change. -/
theorem openRead_of_opened (h : ∀ r, OpenedIn dir x.tree x.files r) (hext : x.tree.Extends t)
    (hto : t.LeadsTo dir target) {r : Relation} {l : Location} (hr : target r = .file l)
    (hext' : x.tree.Extends t') :
    t'.openRead (dir.join r.name) = .ok (.file (t'.content l)) := by
  obtain ⟨c, slash, hlater⟩ := hto.locate_file hr
  obtain ⟨-, hthen⟩ := eq_of_opened (h r) hext hlater
  rw [FileTree.openRead, hext'.locate_file hthen]
  rfl

/-- Handles to files and to the full device show what the paths lead to. -/
theorem leadsTo_of_handles (h : ∀ r, OpenedIn dir x.tree x.files r)
    (hfile : ∀ {r l}, target r = .file l → (x.files.get r).handle = .file l 0)
    (hfull : ∀ {r}, target r = .full → (x.files.get r).handle = .device .full)
    (heq : ∀ {r s l}, target r = .file l → target s = .file l → r = s) :
    x.tree.LeadsTo dir target := by
  refine ⟨fun {r l} hr ↦ ?_, fun {r} hr ↦ ?_, heq⟩
  · have hopened := (h r).1
    rw [hfile hr] at hopened
    exact ⟨_, _, hopened.2⟩
  · have hopened := (h r).1
    rw [hfull hr] at hopened
    obtain ⟨l, hl⟩ := hopened
    exact ⟨l, _, hl⟩

end RelationFiles

/-! ### A directory of relation files -/

/-- The location with the given names. -/
def Location.ofStrings (names : List String) : Location :=
  names.map fun n ↦ (Path.ofString n).bytes

/-- A tree with a dump and with a directory in which one relation file is left from an earlier
run. -/
def peopleTree (dump : ByteArray) : FileTree where
  entries := [(.ofStrings ["dump.gz"], .file dump), (.ofStrings ["people"], .dir),
    (.ofStrings ["people", "hasFather"], .file "Q8\tQ9\n".toUTF8)]

/-- The relation files opened in the tree. -/
def peopleFiles (dump : ByteArray) : RelationFiles where
  dir := .ofString "people"
  tree.entries :=
    (Relation.all.reverse.map fun r ↦ (.ofStrings ["people", r.name], .file .empty)) ++
      [(.ofStrings ["dump.gz"], .file dump), (.ofStrings ["people"], .dir)]
  files := .ofFn fun r ↦ ⟨.file (.ofStrings ["people", r.name]) 0, .empty⟩

theorem createIn_peopleTree (dump : ByteArray) :
    RelationFiles.createIn (peopleTree dump) (.ofString "people") false =
      .opened (peopleFiles dump) := by
  cbv

/-- Relations have different names, so their files have different locations. -/
theorem peopleLocation_injective :
    Function.Injective fun r : Relation ↦ Location.ofStrings ["people", r.name] := by
  intro r s h
  have hbytes : (Path.ofString r.name).bytes = (Path.ofString s.name).bytes := by
    simpa [Location.ofStrings] using h
  exact Relation.name_injective (Text.Utf8.toUTF8_toList_injective hbytes)

theorem leadsTo_peopleFiles (dump : ByteArray) :
    (peopleFiles dump).tree.LeadsTo (.ofString "people")
      fun r ↦ .file (.ofStrings ["people", r.name]) := by
  refine RelationFiles.leadsTo_of_handles
    (RelationFiles.opened_of_createIn (createIn_peopleTree dump)) ?_ ?_ ?_
  · rintro r _ ⟨rfl⟩
    rw [peopleFiles, Relation.Table.get_ofFn]
  · rintro r ⟨⟩
  · rintro r s _ ⟨rfl⟩ hs
    exact peopleLocation_injective (Target.file.inj hs).symm

/-- A subject that is larger than a buffer. -/
def longSubject : String :=
  String.ofList (List.replicate 9000 'Q')

theorem size_longSubject : longSubject.toUTF8.size = 9000 := by
  have hsize : ∀ n, (String.ofList (List.replicate n 'Q')).toUTF8.size = n := by
    intro n
    induction n with
    | zero => rfl
    | succ n ih =>
      rw [String.toUTF8_eq_toByteArray] at ih ⊢
      rw [List.replicate_succ, ← List.singleton_append, String.ofList_append,
        String.toByteArray_append, ByteArray.size_append, ih, Nat.add_comm]
      rfl
  exact hsize 9000

end PersonRelations
