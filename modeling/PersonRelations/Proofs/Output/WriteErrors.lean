import PersonRelations.Proofs.Output.FileTexts

/-!
# Write errors

Some of the relation files can be full devices. Such a device takes nothing, but the buffer before
it does, so a record that is lost can be refused at a later record, or only when the files are
finished.

* `RelationFiles.isLeast_refusedAt_iff`: the first call that is refused for a relation is the first
  that overruns the buffer. This is a matter of the sizes of that relation's records; the other
  relations have no part in it.
* `write_errors_reported`: if nothing was refused, finishing reports the relations whose records are
  lost (`RelationFiles.lost`), each once, and the others have their records.

Both rest on `RelationFiles.ServingCalls`: until the first overrun the buffer has all data of the
relation, so its size is the number of bytes given.
-/

namespace PersonRelations

/-- Properties that agree until the second holds for the first time hold for the first time
together. -/
theorem isLeast_congr {p q : Nat → Prop} (h : ∀ n, (∀ m < n, ¬q m) → (p n ↔ q n)) (n : Nat) :
    IsLeast {m | p m} n ↔ IsLeast {m | q m} n := by
  have hnone : ∀ m, (∀ k < m, ¬p k) → ∀ k < m, ¬q k := by
    intro m hp k
    induction k using Nat.strongRecOn with
    | ind k ih =>
      intro hk hq
      have hbefore : ∀ j < k, ¬q j := fun j hj ↦ ih j hj (hj.trans hk)
      exact hp k hk ((h k hbefore).2 hq)
  constructor
  · rintro ⟨hn, hleast⟩
    have hbefore := hnone n fun m hm hp ↦ (hleast hp).not_gt hm
    exact ⟨(h n hbefore).1 hn, fun m hq ↦ not_lt.1 fun hm ↦ hbefore m hm hq⟩
  · rintro ⟨hn, hleast⟩
    have hbefore : ∀ m < n, ¬q m := fun m hm hq ↦ (hleast hq).not_gt hm
    refine ⟨(h n hbefore).2 hn, fun m hp ↦ not_lt.1 fun hm ↦ hbefore m hm ?_⟩
    exact (h m fun k hk ↦ hbefore k (hk.trans hm)).1 hp

/-! ### Records that were lost -/

theorem Sink.answer_of_writeAll {σ : Type} [Sink σ] {sink : σ} {rs : List Record} {n : Nat}
    {y : Record} (h : (Sink.writeAll sink rs).2 = none) (hy : rs[n]? = some y) :
    (Sink.write (Sink.writeEach sink (rs.take n)) y).2 = none := by
  induction rs generalizing sink n with
  | nil => cases hy
  | cons r rs ih =>
    rw [Sink.writeAll] at h
    rcases hw : Sink.write sink r with ⟨next, _ | e⟩
    · rw [hw] at h
      cases n with
      | zero =>
        cases hy
        exact congrArg Prod.snd hw
      | succ n =>
        have hnext := ih h hy
        rwa [List.take_succ_cons, Sink.writeEach, List.foldl_cons, hw]
    · rw [hw] at h
      cases h

/-- Every row has a line feed at least. -/
theorem Record.text_eq_empty_iff {rs : List Record} : text rs = .empty ↔ rs = [] := by
  refine ⟨fun h ↦ ?_, fun h ↦ by rw [h]; rfl⟩
  cases rs with
  | nil => rfl
  | cons x rs => simp [text, ← ByteArray.size_eq_zero_iff] at h

theorem Record.textOf_eq_empty_iff {r : Relation} {rs : List Record} :
    textOf r rs = .empty ↔ ∀ x ∈ rs, x.relation ≠ r := by
  simp [textOf, text_eq_empty_iff, List.filter_eq_nil_iff]

namespace RelationFiles

variable {x : RelationFiles} {t : FileTree} {dir : Path} {target : Relation → Target}
  {data : Relation → ByteArray}

/-- The relations that have records and a full device for them. -/
def lost (target : Relation → Target) (rs : List Record) : List Relation :=
  Relation.all.filter fun r ↦ target r = .full ∧ ∃ x ∈ rs, x.relation = r

/-- The call number `n` is for the relation, and is refused. -/
def RefusedAt (x : RelationFiles) (r : Relation) (rs : List Record) (n : Nat) : Prop :=
  ∃ y, rs[n]? = some y ∧ y.relation = r ∧
    (Sink.write (Sink.writeEach x (rs.take n)) y).2 ≠ none

theorem not_overran_take {r : Relation} {rs : List Record} {n : Nat}
    (h : ∀ m < n, ¬OverrunsAt r rs m) : ¬Overran r (rs.take n) := by
  rintro ⟨m, hover⟩
  obtain ⟨y, hy, -, -⟩ := id hover
  have hm : m < (rs.take n).length := (List.getElem?_eq_some_iff.1 hy).1
  have hall := hover.append (rs.drop n)
  rw [List.take_append_drop] at hall
  exact h m (Nat.lt_of_lt_of_le hm (List.length_take_le n rs)) hall

/-- Until a call overruns, a call for a full device is refused exactly if it overruns. -/
theorem refusedAt_iff (h : ∀ r, OpenedIn dir x.tree x.files r) (hext : x.tree.Extends t)
    (hto : t.LeadsTo dir target) {rs : List Record} {r : Relation} (hr : target r = .full) {n : Nat}
    (hbefore : ∀ m < n, ¬OverrunsAt r rs m) : RefusedAt x r rs n ↔ OverrunsAt r rs n := by
  obtain ⟨data, hserving, hdata⟩ := servingCalls_of_opened h hext hto (rs.take n)
  have hsize : (data r).size = Record.given r (rs.take n) := by
    rw [hdata r fun _ ↦ not_overran_take hbefore, Record.size_textOf]
  refine exists_congr fun y ↦ and_congr_right fun _ ↦ and_congr_right fun hy ↦ ?_
  subst hy
  rw [write_ne_none_iff hserving, hsize]
  exact and_iff_right hr

/-- **The first refused call** is the first that overruns. -/
theorem isLeast_refusedAt_iff (h : ∀ r, OpenedIn dir x.tree x.files r) (hext : x.tree.Extends t)
    (hto : t.LeadsTo dir target) (rs : List Record) {r : Relation} (hr : target r = .full)
    (n : Nat) : IsLeast {m | RefusedAt x r rs m} n ↔ IsLeast {m | OverrunsAt r rs m} n :=
  isLeast_congr (fun _ hbefore ↦ refusedAt_iff h hext hto hr hbefore) n

/-- If nothing is refused, all data are in the files and in the buffers of the full devices. -/
theorem serving_of_none (h : ∀ r, OpenedIn dir x.tree x.files r) (hext : x.tree.Extends t)
    (hto : t.LeadsTo dir target) {rs : List Record} (hnone : (Sink.writeAll x rs).2 = none) :
    (Sink.writeEach x rs).Serving target fun r ↦ Record.textOf r rs := by
  have hfit : ∀ r, target r = .full → ¬Overran r rs := by
    rintro r hr ⟨n, hover⟩
    induction n using Nat.strongRecOn with
    | ind n ih =>
      obtain ⟨y, hy, -, hrefused⟩ := (refusedAt_iff h hext hto hr ih).2 hover
      exact hrefused (Sink.answer_of_writeAll hnone hy)
  obtain ⟨data, hserving, hdata⟩ := servingCalls_of_opened h hext hto rs
  have heq : data = fun r ↦ Record.textOf r rs := funext fun r ↦ hdata r (hfit r)
  exact heq ▸ hserving

theorem failing_textOf (target : Relation → Target) (rs : List Record) :
    failing target (fun r ↦ Record.textOf r rs) Relation.all = lost target rs := by
  refine List.filter_congr fun r _ ↦ ?_
  simp [Record.textOf_eq_empty_iff]

theorem lost_eq_nil_iff {rs : List Record} :
    lost target rs = [] ↔ ∀ x ∈ rs, target x.relation ≠ .full := by
  rw [lost, List.filter_eq_nil_iff]
  constructor
  · intro h x hx hfull
    exact h x.relation (Relation.mem_all _) (by simpa using ⟨hfull, x, hx, rfl⟩)
  · intro h r _ hr
    obtain ⟨hfull, x, hx, rfl⟩ := of_decide_eq_true hr
    exact h x hx hfull

end RelationFiles

/-- **Write errors are reported and do not spread.** The paths of files that were just opened lead
to full devices and to different files, and records are written to them.

If no call was refused, finishing gives an error exactly if a full device was to have a record: the
error for the first relation whose records are lost, in table order, with one event of level error
for each of them in that order. Every file has all of its rows.

Whatever was refused, the first call that is refused for a full device is the first in which a piece
brings the bytes given for it above the capacity of a buffer or is as large as that, and only calls
for full devices are refused. -/
theorem write_errors_reported (t : FileTree) (dir : Path) (makeDir : Bool) (files : RelationFiles)
    (hopened : RelationFiles.createIn t dir makeDir = .opened files) (target : Relation → Target)
    (hto : files.tree.LeadsTo dir target) (rs : List Record) :
    (∀ written, Sink.writeAll files rs = (written, none) →
      (written.finish.2.2 = none ↔ ∀ x ∈ rs, target x.relation ≠ .full) ∧
      written.finish.2.2 =
        (RelationFiles.lost target rs).head?.map (fun r ↦ .outputWrite r (.file .noSpace)) ∧
      written.finish.2.1 =
        (RelationFiles.lost target rs).map (fun r ↦ .flushFailed r (.file .noSpace)) ∧
      (∀ e ∈ written.finish.2.1, e.level = .error) ∧
      ∀ r, target r ≠ .full →
        written.finish.1.openRead (dir.join r.name) = .ok (.file (Record.textOf r rs))) ∧
    (∀ r n, target r = .full →
      (IsLeast {m | RelationFiles.RefusedAt files r rs m} n ↔
        IsLeast {m | RelationFiles.OverrunsAt r rs m} n)) ∧
    ∀ n y e, rs[n]? = some y →
      (Sink.write (Sink.writeEach files (rs.take n)) y).2 = some e →
      target y.relation = .full ∧ e = .outputWrite y.relation (.file .noSpace) := by
  have hopen := RelationFiles.opened_of_createIn hopened
  have hrefl := FileTree.Extends.refl files.tree
  refine ⟨fun written hwritten ↦ ?_, fun r n hr ↦ ?_, fun n y e _ he ↦ ?_⟩
  · have hnone := congrArg Prod.snd hwritten
    obtain rfl : Sink.writeEach files rs = written := by
      rw [Sink.writeAll_of_none hnone] at hwritten
      exact congrArg Prod.fst hwritten
    have hfinish := RelationFiles.finish_eq (RelationFiles.serving_of_none hopen hrefl hto hnone)
    rw [RelationFiles.failing_textOf] at hfinish
    refine ⟨?_, by rw [hfinish], by rw [hfinish], ?_, fun r hr ↦ ?_⟩
    · rw [hfinish, ← RelationFiles.lost_eq_nil_iff]
      simp
    · simp [hfinish, Event.level]
    · rw [RelationFiles.tree_finish]
      exact RelationFiles.openRead_close_writeEach hopen hrefl hto rs hr
  · exact RelationFiles.isLeast_refusedAt_iff hopen hrefl hto rs hr n
  · obtain ⟨data, hserving, -⟩ := RelationFiles.servingCalls_of_opened hopen hrefl hto (rs.take n)
    exact RelationFiles.eq_of_write_eq_some hserving he

/-- Two of the paths lead to the full device. -/
def fullParents : Relation → Target
  | .hasFather | .hasMother => .full
  | r => .file (.ofStrings ["people", r.name])

/-- A tree with a directory in which two relations are linked to the full device. -/
def fullParentsTree : FileTree where
  entries := [(.ofStrings ["dev"], .dir), (.ofStrings ["dev", "full"], .device .full),
    (.ofStrings ["people"], .dir),
    (.ofStrings ["people", "hasFather"], .link (.ofString "/dev/full")),
    (.ofStrings ["people", "hasMother"], .link (.ofString "/dev/full"))]

/-- The relation files opened in the tree. -/
def fullParentsFiles : RelationFiles where
  dir := .ofString "people"
  tree.entries := (Relation.all.reverse.filterMap fun r ↦ match fullParents r with
      | .file loc => some (loc, .file .empty)
      | .full => none) ++ fullParentsTree.entries
  files := .ofFn fun r ↦ match fullParents r with
    | .file loc => ⟨.file loc 0, .empty⟩
    | .full => ⟨.device .full, .empty⟩

theorem createIn_fullParentsTree :
    RelationFiles.createIn fullParentsTree (.ofString "people") false =
      .opened fullParentsFiles := by
  cbv

theorem eq_of_fullParents {r : Relation} {loc : Location} (h : fullParents r = .file loc) :
    loc = .ofStrings ["people", r.name] := by
  cases r <;> cases h <;> rfl

theorem leadsTo_fullParents : fullParentsFiles.tree.LeadsTo (.ofString "people") fullParents := by
  refine RelationFiles.leadsTo_of_handles
    (RelationFiles.opened_of_createIn createIn_fullParentsTree) ?_ ?_ ?_
  · intro r l hr
    rw [fullParentsFiles, Relation.Table.get_ofFn, hr]
  · intro r hr
    rw [fullParentsFiles, Relation.Table.get_ofFn, hr]
  · intro r s l hr hs
    exact peopleLocation_injective ((eq_of_fullParents hr).symm.trans (eq_of_fullParents hs))

/-- Records of three relations, of which two have a full device. -/
def parentRecords : List Record :=
  [⟨.hasMother, "Q1", "Q2"⟩, ⟨.hasChild, "Q3", "Q1"⟩, ⟨.hasFather, "Q1", "Q3"⟩]

/-- The records fit into the buffers, so nothing is refused until the files are finished. A large
record that comes after them is refused at once. -/
theorem write_errors_reported_full_parents :
    fullParentsFiles.tree.LeadsTo (.ofString "people") fullParents ∧
      (∃ written : RelationFiles,
        Sink.writeAll fullParentsFiles parentRecords = (written, none) ∧
        written.finish.2 = ([.flushFailed .hasFather (.file .noSpace),
          .flushFailed .hasMother (.file .noSpace)], some (.outputWrite .hasFather (.file .noSpace))) ∧
        written.finish.1.openRead ((Path.ofString "people").join "hasChild") =
          .ok (.file "Q3\tQ1\n".toUTF8)) ∧
      IsLeast {n | RelationFiles.RefusedAt fullParentsFiles .hasMother
        (parentRecords ++ [⟨.hasMother, longSubject, "Q4"⟩]) n} 3 := by
  have hto := leadsTo_fullParents
  have hnone : (Sink.writeAll fullParentsFiles parentRecords).2 = none := by cbv
  have hall := Sink.writeAll_of_none hnone
  obtain ⟨hreported, -, -⟩ := write_errors_reported fullParentsTree (.ofString "people") false
    fullParentsFiles createIn_fullParentsTree fullParents hto parentRecords
  obtain ⟨-, hresult, hevents, -, hread⟩ := hreported _ hall
  obtain ⟨-, hfirst, -⟩ := write_errors_reported fullParentsTree (.ofString "people") false
    fullParentsFiles createIn_fullParentsTree fullParents hto
    (parentRecords ++ [⟨.hasMother, longSubject, "Q4"⟩])
  refine ⟨hto, ⟨_, hall, Prod.ext hevents hresult, ?_⟩, (hfirst .hasMother 3 rfl).2 ⟨?_, ?_⟩⟩
  · refine (hread .hasChild (by decide)).trans ?_
    simp [parentRecords, Record.textOf, Record.text, Record.row]
  · exact ⟨_, rfl, rfl, [], _, _, rfl, Or.inr (by rw [size_longSubject]; decide)⟩
  · have hbefore : ∀ m < 3, ¬RelationFiles.OverrunsAt .hasMother
        (parentRecords ++ [⟨.hasMother, longSubject, "Q4"⟩]) m := by decide
    exact fun m hm ↦ not_lt.1 fun hlt ↦ hbefore m hlt hm

end PersonRelations
