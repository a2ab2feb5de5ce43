import PersonRelations.Proofs.Output.FullDevice
import PersonRelations.Proofs.Output.Targets

/-!
# The texts of the relation files

A relation's file is to hold one row for each of its records, in the order in which they came
(`Record.textOf`). Thirteen buffered files stand between the records and what their paths lead to.

* `RelationFiles.Serving`: a file holds its data together with its buffer, and for the full device
  all data are in the buffer. One call keeps this up (`RelationFiles.serving_write`,
  `RelationFiles.serving_write_refused`), and so do any number of them
  (`RelationFiles.ServingCalls.writeEach`), whatever was refused on the way. Flushes move the data
  to the files and are refused by the full device (`RelationFiles.serving_flushAll`).
* `RelationFiles.openRead_close_writeEach`: each file holds the text of its records in the end.
* `RelationFiles.openRead_close_writeAll`: if the paths lead to different files, nothing is refused
  at all.
-/

namespace PersonRelations

/-! ### Texts -/

namespace Record

/-- One row for each record. -/
def text (rs : List Record) : ByteArray :=
  (String.join (rs.map fun r ↦ r.row ++ "\n")).toUTF8

/-- The text of the records of one relation. -/
def textOf (r : Relation) (rs : List Record) : ByteArray :=
  text (rs.filter fun x ↦ x.relation = r)

theorem text_append (xs ys : List Record) : text (xs ++ ys) = text xs ++ text ys := by
  simp [text]

theorem textOf_append (r : Relation) (xs ys : List Record) :
    textOf r (xs ++ ys) = textOf r xs ++ textOf r ys := by
  rw [textOf, List.filter_append, text_append, textOf, textOf]

theorem textOf_singleton_self (x : Record) :
    textOf x.relation [x] = (x.row ++ "\n").toUTF8 := by
  simp [textOf, text]

theorem textOf_singleton_of_ne {r : Relation} {x : Record} (h : r ≠ x.relation) :
    textOf r [x] = .empty := by
  simp [textOf, text, Ne.symm h]

/-- The number of bytes of the pieces in which the records of the relation are written. -/
def given (r : Relation) (rs : List Record) : Nat :=
  (((rs.filter fun x ↦ x.relation = r).flatMap RelationFiles.pieces).map ByteArray.size).sum

theorem size_textOf (r : Relation) (rs : List Record) : (textOf r rs).size = given r rs := by
  rw [textOf, given]
  induction rs.filter fun x ↦ x.relation = r with
  | nil => rfl
  | cons x xs ih =>
    rw [← List.singleton_append, text_append, ByteArray.size_append, ih, List.flatMap_append,
      List.map_append, List.sum_append]
    simp [text, row, RelationFiles.pieces, Nat.add_assoc]

/-- The pieces in which a record is written make up its row. -/
theorem foldl_pieces (x : Record) (data : ByteArray) :
    (RelationFiles.pieces x).foldl (· ++ ·) data = data ++ (x.row ++ "\n").toUTF8 := by
  simp [RelationFiles.pieces, row, ByteArray.append_assoc]

end Record

/-! ### Targets that are served -/

namespace BufferedFile

variable {t t' : FileTree} {f : BufferedFile}

/-- What became of data that were written for the target: a file holds them, and for the full device
they are in the buffer. -/
def Serves (f : BufferedFile) (t : FileTree) (data : ByteArray) : Target → Prop
  | .file loc => f.Holds t loc data
  | .full => f.handle = .device .full ∧ f.buffer = data

/-- A target is served as long as nothing else changes it. -/
theorem Serves.congr {target : Target} {data : ByteArray} (h : f.Serves t data target)
    (heq : ∀ loc, target = .file loc → t'.get? loc = t.get? loc) : f.Serves t' data target := by
  cases target with
  | file loc => exact Holds.congr h (heq loc rfl)
  | full => exact h

/-- What an operation leaves: a target that is served, and every file but that one as it was. -/
structure Served (t : FileTree) (target : Target) (data : ByteArray)
    (x : FileTree × BufferedFile × Option FileError) : Prop where
  serves : x.2.1.Serves x.1 data target
  get?_of_ne : ∀ loc, target ≠ .file loc → x.1.get? loc = t.get? loc

theorem Appended.served {loc : Location} {data : ByteArray}
    {x : FileTree × BufferedFile × Option FileError} (h : Appended t loc data x) :
    Served t (.file loc) data x :=
  ⟨h.holds, fun m hm ↦ h.get?_of_ne m fun heq ↦ hm (congrArg Target.file heq.symm)⟩

theorem Served.full (t : FileTree) (buffer : ByteArray) (e : Option FileError) :
    Served t .full buffer (t, ⟨.device .full, buffer⟩, e) :=
  ⟨⟨rfl, rfl⟩, fun _ _ ↦ rfl⟩

end BufferedFile

namespace RelationFiles

variable {x : RelationFiles} {t t' : FileTree} {dir : Path} {loc : Relation → Location}
  {target : Relation → Target} {data : Relation → ByteArray}

/-- Each target is served with its data, and no two relations share a file. -/
structure Serving (x : RelationFiles) (target : Relation → Target)
    (data : Relation → ByteArray) : Prop where
  serves : ∀ r, (x.files.get r).Serves x.tree (data r) (target r)
  eq_of_file : ∀ {r s loc}, target r = .file loc → target s = .file loc → r = s

/-- Files that were just opened serve their targets with nothing. -/
theorem serving_of_opened (h : ∀ r, OpenedIn dir x.tree x.files r) (hext : x.tree.Extends t)
    (hto : t.LeadsTo dir target) : x.Serving target fun r ↦ Record.textOf r [] := by
  refine ⟨fun r ↦ ?_, hto.eq_of_file⟩
  cases hr : target r with
  | file loc =>
    obtain ⟨c, slash, hlater⟩ := hto.locate_file hr
    obtain ⟨hfile, hthen⟩ := eq_of_opened (h r) hext hlater
    rw [hfile]
    exact BufferedFile.Holds.of_get? (FileTree.get?_of_locate hthen) .empty
  | full =>
    obtain ⟨loc, slash, hlater⟩ := hto.locate_full hr
    rw [eq_of_opened_full (h r) hext hlater]
    exact ⟨rfl, rfl⟩

/-- An operation on one file changes the data of that file only. -/
theorem Serving.update (h : x.Serving target data) {r : Relation}
    {y : FileTree × BufferedFile × Option FileError} {data' : Relation → ByteArray}
    (hy : BufferedFile.Served x.tree (target r) (data' r) y)
    (hdata : ∀ s, s ≠ r → data' s = data s) :
    Serving { x with tree := y.1, files := x.files.set r y.2.1 } target data' := by
  refine ⟨fun s ↦ ?_, h.eq_of_file⟩
  by_cases hs : s = r
  · subst hs
    simpa using hy.serves
  · -- the operation was on another file, and that one is elsewhere
    have hframe : ∀ loc, target s = .file loc → y.1.get? loc = x.tree.get? loc := by
      intro loc hloc
      exact hy.get?_of_ne loc fun hr ↦ hs (h.eq_of_file hloc hr)
    rw [hdata s hs]
    simpa [hs] using (h.serves s).congr hframe

/-! ### Calls -/

/-- **A call that is not refused** adds the record's row to the data of its relation. Only the full
device refuses anything, and only what overruns the buffer. -/
theorem serving_write (h : x.Serving target data) (r : Record)
    (hfit : target r.relation = .full →
      ¬BufferedFile.Overruns (data r.relation).size (pieces r)) :
    (Sink.write x r).2 = none ∧
      (Sink.write x r).1.Serving target fun s ↦ data s ++ Record.textOf s [r] := by
  have hself : (pieces r).foldl (· ++ ·) (data r.relation) =
      data r.relation ++ Record.textOf r.relation [r] := by
    rw [Record.foldl_pieces, Record.textOf_singleton_self]
  have hothers : ∀ s, s ≠ r.relation → data s ++ Record.textOf s [r] = data s := by
    intro s hs
    rw [Record.textOf_singleton_of_ne hs, ByteArray.append_empty]
  suffices hdone : ((x.files.get r.relation).writeAll x.tree (pieces r)).2.2 = none ∧
      BufferedFile.Served x.tree (target r.relation)
        (data r.relation ++ Record.textOf r.relation [r])
        ((x.files.get r.relation).writeAll x.tree (pieces r)) from
    ⟨congrArg (Option.map _) hdone.1, h.update hdone.2 hothers⟩
  have hserves := h.serves r.relation
  cases htarget : target r.relation with
  | file loc =>
    rw [htarget] at hserves
    have happ := BufferedFile.appended_writeAll hserves (pieces r)
    rw [hself] at happ
    exact ⟨happ.error_eq, happ.served⟩
  | full =>
    rw [htarget] at hserves
    obtain ⟨hhandle, hbuffer⟩ := hserves
    have hsize : ¬BufferedFile.Overruns (x.files.get r.relation).buffer.size (pieces r) := by
      rw [hbuffer]
      exact hfit htarget
    rw [BufferedFile.writeAll_full_of_not_overruns hhandle hsize, hbuffer, hself, hhandle]
    exact ⟨rfl, BufferedFile.Served.full x.tree _ none⟩

/-- **A call that is refused** changes nothing for the other relations. -/
theorem serving_write_refused (h : x.Serving target data) {r : Record}
    (hfull : target r.relation = .full)
    (hover : BufferedFile.Overruns (data r.relation).size (pieces r)) :
    (Sink.write x r).2 = some (.outputWrite r.relation (.file .noSpace)) ∧
      ∃ data', (Sink.write x r).1.Serving target data' ∧
        ∀ s, s ≠ r.relation → data' s = data s := by
  have hserves := h.serves r.relation
  rw [hfull] at hserves
  obtain ⟨hhandle, hbuffer⟩ := hserves
  rw [← hbuffer] at hover
  obtain ⟨buffer, hwrite⟩ := BufferedFile.writeAll_full_of_overruns (t := x.tree) hhandle hover
  have hanswer : ((x.files.get r.relation).writeAll x.tree (pieces r)).2.2 = some .noSpace := by
    rw [hwrite]
  have hserved : BufferedFile.Served x.tree (target r.relation)
      (if r.relation = r.relation then buffer else data r.relation)
      ((x.files.get r.relation).writeAll x.tree (pieces r)) := by
    rw [hwrite, hfull, if_pos rfl]
    exact BufferedFile.Served.full x.tree buffer _
  exact ⟨congrArg (Option.map _) hanswer, fun s ↦ if s = r.relation then buffer else data s,
    h.update hserved fun s hs ↦ if_neg hs, fun s hs ↦ if_neg hs⟩

/-- **A refused call** overruns the buffer of a full device. -/
theorem write_ne_none_iff (h : x.Serving target data) (y : Record) :
    (Sink.write x y).2 ≠ none ↔
      target y.relation = .full ∧
        BufferedFile.Overruns (data y.relation).size (pieces y) := by
  by_cases hrefused : target y.relation = .full ∧
      BufferedFile.Overruns (data y.relation).size (pieces y)
  · obtain ⟨hanswer, -⟩ := serving_write_refused h hrefused.1 hrefused.2
    simp [hanswer, hrefused]
  · obtain ⟨hanswer, -⟩ := serving_write h y fun hfull hover ↦ hrefused ⟨hfull, hover⟩
    simp [hanswer, hrefused]

theorem eq_of_write_eq_some (h : x.Serving target data) {y : Record} {e : Error}
    (he : (Sink.write x y).2 = some e) :
    target y.relation = .full ∧ e = .outputWrite y.relation (.file .noSpace) := by
  obtain ⟨hfull, hover⟩ := (write_ne_none_iff h y).1 (by simp [he])
  obtain ⟨hanswer, -⟩ := serving_write_refused h hfull hover
  rw [hanswer] at he
  exact ⟨hfull, (Option.some.inj he).symm⟩

/-- The call number `n` is for the relation, and brings the bytes given to it above the capacity of
a buffer or has a piece as large as that. -/
def OverrunsAt (r : Relation) (rs : List Record) (n : Nat) : Prop :=
  ∃ x, rs[n]? = some x ∧ x.relation = r ∧
    BufferedFile.Overruns (Record.given r (rs.take n)) (pieces x)

instance (r : Relation) (rs : List Record) (n : Nat) : Decidable (OverrunsAt r rs n) :=
  decidable_of_iff (rs[n]?.any fun x ↦
    x.relation = r ∧ BufferedFile.Overruns (Record.given r (rs.take n)) (pieces x)) (by
      simp [OverrunsAt, Option.any_eq_true])

/-- Some call for the relation has overrun. -/
def Overran (r : Relation) (rs : List Record) : Prop :=
  ∃ n, OverrunsAt r rs n

theorem OverrunsAt.append {r : Relation} {rs : List Record} {n : Nat} (h : OverrunsAt r rs n)
    (more : List Record) : OverrunsAt r (rs ++ more) n := by
  obtain ⟨x, hx, hr, hover⟩ := h
  obtain ⟨hn, -⟩ := List.getElem?_eq_some_iff.1 hx
  refine ⟨x, ?_, hr, ?_⟩
  · rw [List.getElem?_append_left hn, hx]
  · rwa [List.take_append_of_le_length (Nat.le_of_lt hn)]

theorem overrunsAt_length {rs : List Record} {x : Record}
    (h : BufferedFile.Overruns (Record.given x.relation rs) (pieces x)) :
    OverrunsAt x.relation (rs ++ [x]) rs.length :=
  ⟨x, by simp, rfl, by simpa using h⟩

/-- What the calls for the records have left: a file has the text of its relation's records, and the
full device's buffer has it as long as no call for the relation has overrun. -/
def ServingCalls (x : RelationFiles) (target : Relation → Target) (rs : List Record) : Prop :=
  ∃ data, x.Serving target data ∧
    ∀ r, (target r = .full → ¬Overran r rs) → data r = Record.textOf r rs

/-- **One more call.** -/
theorem ServingCalls.write {rs : List Record} (h : x.ServingCalls target rs) (r : Record) :
    (Sink.write x r).1.ServingCalls target (rs ++ [r]) := by
  obtain ⟨data, hserving, hdata⟩ := h
  have hbefore : ∀ s, (target s = .full → ¬Overran s (rs ++ [r])) → data s = Record.textOf s rs :=
    fun s hs ↦ hdata s fun hfull ⟨n, hover⟩ ↦ hs hfull ⟨n, hover.append [r]⟩
  by_cases hrefused : target r.relation = .full ∧
      BufferedFile.Overruns (data r.relation).size (pieces r)
  · obtain ⟨hfull, hover⟩ := hrefused
    obtain ⟨-, data', hserving', hothers⟩ := serving_write_refused hserving hfull hover
    refine ⟨data', hserving', fun s hs ↦ ?_⟩
    -- the call has overrun, so nothing is claimed of its relation
    have hne : s ≠ r.relation := by
      rintro rfl
      rw [hbefore _ hs, Record.size_textOf] at hover
      exact hs hfull ⟨_, overrunsAt_length hover⟩
    rw [hothers s hne, hbefore s hs, Record.textOf_append, Record.textOf_singleton_of_ne hne,
      ByteArray.append_empty]
  · refine ⟨_, (serving_write hserving r fun hfull hover ↦ hrefused ⟨hfull, hover⟩).2,
      fun s hs ↦ ?_⟩
    rw [hbefore s hs, Record.textOf_append]

/-- **Any number of calls.** -/
theorem ServingCalls.writeEach {before : List Record} (h : x.ServingCalls target before)
    (rs : List Record) : (Sink.writeEach x rs).ServingCalls target (before ++ rs) := by
  induction rs generalizing x before with
  | nil =>
    rw [List.append_nil]
    exact h
  | cons r rs ih =>
    rw [← List.singleton_append, ← List.append_assoc]
    exact ih (h.write r)

theorem servingCalls_of_opened (h : ∀ r, OpenedIn dir x.tree x.files r) (hext : x.tree.Extends t)
    (hto : t.LeadsTo dir target) (rs : List Record) :
    (Sink.writeEach x rs).ServingCalls target rs :=
  ServingCalls.writeEach ⟨_, serving_of_opened h hext hto, fun _ _ ↦ rfl⟩ rs

/-! ### Flushes -/

theorem files_flush_of_ne {r s : Relation} (hs : s ≠ r) :
    (x.flush r).1.files.get s = x.files.get s := by
  simp [flush, hs]

/-- **A flush** changes no data. The full device refuses it if there are any, and a file has them
all afterwards. -/
theorem serving_flush (h : x.Serving target data) (r : Relation) :
    (x.flush r).1.Serving target data ∧
      (x.flush r).2 = (if target r = .full ∧ data r ≠ .empty then some .noSpace else none) ∧
      (target r ≠ .full → ((x.flush r).1.files.get r).buffer = .empty) := by
  have hserves := h.serves r
  cases htarget : target r with
  | file loc =>
    rw [htarget] at hserves
    obtain ⟨happ, hempty⟩ := BufferedFile.appended_flush hserves
    refine ⟨h.update (by rw [htarget]; exact happ.served) fun _ _ ↦ rfl, ?_, fun _ ↦ ?_⟩
    · rw [if_neg (by simp)]
      exact happ.error_eq
    · simpa [flush] using hempty
  | full =>
    rw [htarget] at hserves
    obtain ⟨hhandle, hbuffer⟩ := hserves
    have hflush := BufferedFile.flush_full (t := x.tree) hhandle
    have hserved : BufferedFile.Served x.tree (target r) (data r)
        ((x.files.get r).flush x.tree) := by
      rw [hflush, htarget, ← hbuffer]
      exact ⟨⟨hhandle, rfl⟩, fun _ _ ↦ rfl⟩
    refine ⟨h.update hserved fun _ _ ↦ rfl, ?_, fun hne ↦ absurd rfl hne⟩
    show ((x.files.get r).flush x.tree).2.2 = _
    rw [hflush, hbuffer]
    by_cases hempty : data r = .empty
    · simp [hempty]
    · simp [hempty]

/-- The relations whose data the full device refuses. -/
def failing (target : Relation → Target) (data : Relation → ByteArray) (rs : List Relation) :
    List Relation :=
  rs.filter fun r ↦ target r = .full ∧ data r ≠ .empty

/-- **Flushes** change no data, fail for the full devices that have any, and leave the buffers of
the files empty. -/
theorem serving_flushAll (h : x.Serving target data) (rs : List Relation) :
    (x.flushAll rs).1.Serving target data ∧
      (x.flushAll rs).2 = (failing target data rs).map (fun r ↦ (r, .noSpace)) ∧
      ∀ r, target r ≠ .full → r ∈ rs ∨ (x.files.get r).buffer = .empty →
        ((x.flushAll rs).1.files.get r).buffer = .empty := by
  induction rs generalizing x with
  | nil => exact ⟨h, rfl, fun r _ hr ↦ hr.resolve_left List.not_mem_nil⟩
  | cons s rs ih =>
    obtain ⟨hfirst, herror, hempty⟩ := serving_flush h s
    obtain ⟨hserving, hfailures, hbuffers⟩ := ih hfirst
    refine ⟨hserving, ?_, fun r hr hmem ↦ hbuffers r hr ?_⟩
    · show ((x.flush s).2.map fun e ↦ (s, e)).toList ++ ((x.flush s).1.flushAll rs).2 = _
      rw [herror, hfailures, failing, failing, List.filter_cons]
      by_cases hfails : target s = .full ∧ data s ≠ .empty
      · simp [hfails]
      · rw [if_neg hfails, if_neg (by simpa using hfails)]
        rfl
    · by_cases hrs : r = s
      · subst hrs
        exact Or.inr (hempty hr)
      · refine hmem.imp (fun hin ↦ (List.mem_cons.1 hin).resolve_left hrs) fun hbuffer ↦ ?_
        rw [files_flush_of_ne hrs]
        exact hbuffer

/-- Finishing the files leaves the tree that giving them up leaves. -/
theorem tree_finish (x : RelationFiles) : x.finish.1 = x.close := by
  rw [finish, close]

/-- **Finishing** reports every failure, and returns the first. -/
theorem finish_eq (h : x.Serving target data) :
    x.finish = (x.close,
      (failing target data Relation.all).map (fun r ↦ .flushFailed r (.file .noSpace)),
      (failing target data Relation.all).head?.map fun r ↦ .outputWrite r (.file .noSpace)) := by
  obtain ⟨-, hfailures, -⟩ := serving_flushAll h Relation.all
  rw [finish, close]
  rcases hall : x.flushAll Relation.all with ⟨y, failures⟩
  rw [hall] at hfailures
  obtain rfl : failures = _ := hfailures
  simp [Function.comp_def]

/-- If all targets are files, finishing reports nothing. -/
theorem finish_of_files (h : x.Serving (fun r ↦ .file (loc r)) data) :
    x.finish = (x.close, [], none) := by
  have hnone : failing (fun r ↦ .file (loc r)) data Relation.all = [] := by simp [failing]
  rw [finish_eq h, hnone]
  rfl

/-- **The files in the end.** Once everything is flushed, a file holds the data of its relation. -/
theorem openRead_close (h : ∀ r, OpenedIn dir x.tree x.files r) (hext : x.tree.Extends t)
    (hto : t.LeadsTo dir target) {rs : List Record}
    (hserving : (Sink.writeEach x rs).Serving target data) {r : Relation}
    (hr : target r ≠ .full) :
    (Sink.writeEach x rs).close.openRead (dir.join r.name) = .ok (.file (data r)) := by
  obtain ⟨hflushed, -, hbuffers⟩ := serving_flushAll hserving Relation.all
  cases htarget : target r with
  | full => exact absurd htarget hr
  | file l =>
    have hheld := hflushed.serves r
    rw [htarget] at hheld
    have hcontent : (Sink.writeEach x rs).close.content l = data r := by
      have happend := BufferedFile.Holds.append_eq hheld
      rwa [hbuffers r hr (Or.inl (Relation.mem_all r)), ByteArray.append_empty] at happend
    rw [openRead_of_opened h hext hto htarget (extends_close_writeEach h rs), hcontent]

/-- A file holds the text of its relation's records, whatever the full devices refused. -/
theorem openRead_close_writeEach (h : ∀ r, OpenedIn dir x.tree x.files r)
    (hext : x.tree.Extends t) (hto : t.LeadsTo dir target) (rs : List Record) {r : Relation}
    (hr : target r ≠ .full) :
    (Sink.writeEach x rs).close.openRead (dir.join r.name) =
      .ok (.file (Record.textOf r rs)) := by
  obtain ⟨data, hserving, hdata⟩ := servingCalls_of_opened h hext hto rs
  rw [openRead_close h hext hto hserving hr, hdata r fun hfull ↦ absurd hfull hr]

/-- **Files alone** refuse nothing. -/
theorem serving_writeAll_of_files (h : x.Serving (fun r ↦ .file (loc r)) fun r ↦ Record.textOf r [])
    (rs : List Record) :
    Sink.writeAll x rs = (Sink.writeEach x rs, none) ∧
      (Sink.writeEach x rs).Serving (fun r ↦ .file (loc r)) fun r ↦ Record.textOf r rs := by
  have hserving : ∀ rs : List Record, (Sink.writeEach x rs).Serving (fun r ↦ .file (loc r))
      fun r ↦ Record.textOf r rs := by
    intro rs
    obtain ⟨data, hdata, htext⟩ := ServingCalls.writeEach ⟨_, h, fun _ _ ↦ rfl⟩ rs
    have heq : data = fun r ↦ Record.textOf r rs := funext fun r ↦ htext r (by simp)
    exact heq ▸ hdata
  refine ⟨?_, hserving rs⟩
  rcases Sink.writeAll_cases x rs with hall | ⟨before, r, after, e, -, -, he, -⟩
  · exact hall
  · rw [(serving_write (hserving before) r (by simp)).1] at he
    cases he

/-- If the paths lead to different files, each file holds the text of its records in the end,
nothing was refused on the way there, and all data have left the buffers. -/
theorem openRead_close_writeAll (h : ∀ r, OpenedIn dir x.tree x.files r) {rs : List Record}
    (hfiles : (Sink.writeAll x rs).1.close.DistinctFiles dir) :
    (Sink.writeAll x rs).2 = none ∧ (Sink.writeAll x rs).1.finish.2.2 = none ∧
      ∀ r, (Sink.writeAll x rs).1.close.openRead (dir.join r.name) =
        .ok (.file (Record.textOf r rs)) := by
  have hext := extends_close_writeAll h rs
  obtain ⟨loc, hto⟩ := hfiles.exists_leadsTo
  obtain ⟨hall, hserving⟩ := serving_writeAll_of_files (serving_of_opened h hext hto) rs
  rw [hall]
  refine ⟨rfl, ?_, fun r ↦ openRead_close_writeEach h hext hto rs (by simp)⟩
  rw [finish_of_files hserving]

end RelationFiles

end PersonRelations
