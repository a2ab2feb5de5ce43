import PersonRelations.Proofs.Json.Layout
import PersonRelations.Proofs.Stats.SummaryText

/-!
# Reading a summary back

A summary is a JSON text in one of two forms. A reader of JSON gets the same value from both
(`Stats.json`), and finds every counter in it under its key, and for each relation whether it has a
count, and which, under the relation's name (`Json.Reports`). So no two summaries of different
counters are alike, in either form, and the one form is the other without its white space.

It rests on the names of the relations being different from each other: an object with a key twice
would not be read at all.
-/

namespace PersonRelations

open Json (IsSpaces IsPlainKey Spells Shrinks)

namespace CountTree

/-! ### The two forms of an object -/

theorem memberText_eq (before after : String) (m : String × String) :
    Json.memberText before after m = before ++ key m.1 ++ ":" ++ after ++ m.2 := by
  simp [Json.memberText, key, String.ext_iff]

theorem line_eq_layout (ms : List (String × String)) : line ms = Json.layout "" "" "" ms := by
  have hmember : (fun m : String × String ↦ key m.1 ++ ":" ++ m.2) = Json.memberText "" "" := by
    funext m
    simp [memberText_eq]
  rw [Json.layout, ← hmember, line]
  simp

theorem isSpaces_newline (depth : Nat) : IsSpaces (newline depth) := by
  intro c hc
  simp only [newline, String.toList_append, String.toList_ofList, List.mem_append,
    List.mem_replicate] at hc
  rcases hc with hc | ⟨-, rfl⟩
  · obtain rfl : c = '\n' := by simpa using hc
    rfl
  · rfl

/-- An object over several lines differs from one in one line by its white space. -/
theorem exists_layout_eq_block (depth : Nat) (ms : List (String × String)) :
    ∃ before after last, IsSpaces before ∧ IsSpaces after ∧ IsSpaces last ∧
      block depth ms = Json.layout before after last ms := by
  have hnone : IsSpaces "" := by simp [IsSpaces]
  have hblank : IsSpaces " " := by simp [IsSpaces, Json.isSpace]
  by_cases h : ms = []
  · subst h
    exact ⟨"", "", "", hnone, hnone, hnone, rfl⟩
  · refine ⟨newline (depth + 1), " ", newline depth, isSpaces_newline _, hblank,
      isSpaces_newline _, ?_⟩
    have hmember : (fun m : String × String ↦ newline (depth + 1) ++ key m.1 ++ ": " ++ m.2) =
        Json.memberText (newline (depth + 1)) " " := by
      funext m
      simp [memberText_eq, String.ext_iff]
    rw [Json.layout, ← hmember, block, if_neg h]

section

variable {items : List (String × String × Json)} {height : Nat}

theorem spells_line (hkeys : ∀ i ∈ items, IsPlainKey i.1) (hnodup : (items.map Prod.fst).Nodup)
    (hvalues : ∀ i ∈ items, Spells height i.2.1 i.2.2) :
    Spells (height + 1) (line (items.map fun i ↦ (i.1, i.2.1)))
      (.object (items.map fun i ↦ (i.1, i.2.2))) := by
  have hnone : IsSpaces "" := by simp [IsSpaces]
  rw [line_eq_layout]
  exact Spells.layout hnone hnone hnone hkeys hnodup hvalues

theorem spells_block (depth : Nat) (hkeys : ∀ i ∈ items, IsPlainKey i.1)
    (hnodup : (items.map Prod.fst).Nodup) (hvalues : ∀ i ∈ items, Spells height i.2.1 i.2.2) :
    Spells (height + 1) (block depth (items.map fun i ↦ (i.1, i.2.1)))
      (.object (items.map fun i ↦ (i.1, i.2.2))) := by
  obtain ⟨before, after, last, hbefore, hafter, hlast, hblock⟩ := exists_layout_eq_block depth
    (items.map fun i ↦ (i.1, i.2.1))
  rw [hblock]
  exact Spells.layout hbefore hafter hlast hkeys hnodup hvalues

theorem shrinks_block (depth : Nat) {texts : List (String × String × String)}
    (hkeys : ∀ i ∈ texts, IsPlainKey i.1) (hvalues : ∀ i ∈ texts, Shrinks i.2.1 i.2.2) :
    Shrinks (block depth (texts.map fun i ↦ (i.1, i.2.1)))
      (line (texts.map fun i ↦ (i.1, i.2.2))) := by
  obtain ⟨before, after, last, hbefore, hafter, hlast, hblock⟩ := exists_layout_eq_block depth
    (texts.map fun i ↦ (i.1, i.2.1))
  rw [hblock, line_eq_layout]
  exact Shrinks.layout hbefore hafter hlast hkeys hvalues

end

end CountTree

namespace Relation

theorem isPlainKey_name (r : Relation) : IsPlainKey r.name := by
  have hplain : r.name.toList.all Json.isPlain = true := by
    cases r <;> decide
  exact List.all_eq_true.1 hplain

end Relation

namespace Stats

/-- A count as a JSON value. -/
def countJson (n : Count) : Json :=
  .number n.toNat 0

section

variable {α : Type} (count : Count → α) (relations : α) (s : Stats)

/-- The names of the relations that have a count, and something made of each count. -/
def relationRows : List (String × α) :=
  s.relationCounts.map fun x ↦ (x.1.name, count x.2)

/-- The keys of a summary with something made of each count, and of the counts of the relations. -/
def rows : List (String × α) :=
  [("lines_read", count s.linesRead), ("triples_parsed", count s.triplesParsed),
    ("malformed_lines", count s.malformedLines), ("triples_written", count s.triplesWritten),
    ("per_relation", relations), ("elapsed_ms", count s.elapsedMs)]

theorem map_relationRows {β : Type} (f : α → β) :
    (s.relationRows count).map (fun i ↦ (i.1, f i.2)) = s.relationRows (f ∘ count) := by
  rw [relationRows, List.map_map]
  rfl

theorem map_rows {β : Type} (f : α → β) :
    (s.rows count relations).map (fun i ↦ (i.1, f i.2)) = s.rows (f ∘ count) (f relations) :=
  rfl

theorem isPlainKey_relationRows : ∀ i ∈ s.relationRows count, IsPlainKey i.1 := by
  intro i hi
  obtain ⟨x, -, rfl⟩ := List.mem_map.1 hi
  exact x.1.isPlainKey_name

theorem isPlainKey_rows : ∀ i ∈ s.rows count relations, IsPlainKey i.1 := by
  have hplain : ∀ k ∈ ["lines_read", "triples_parsed", "malformed_lines", "triples_written",
      "per_relation", "elapsed_ms"], k.toList.all Json.isPlain = true := by
    decide
  intro i hi
  exact List.all_eq_true.1 (hplain i.1 (List.mem_map_of_mem hi))

/-- No relation is there twice. -/
theorem nodup_relationRows : ((s.relationRows count).map Prod.fst).Nodup := by
  rw [relationRows, relationCounts, Relation.Table.toList, List.filterMap_map, List.map_map,
    List.Nodup, List.pairwise_map]
  refine List.Pairwise.filterMap _ (fun r r' hne x hx x' hx' ↦ ?_) Relation.nodup_all
  obtain ⟨n, -, rfl⟩ := Option.map_eq_some_iff.1 hx
  obtain ⟨n', -, rfl⟩ := Option.map_eq_some_iff.1 hx'
  exact fun hname ↦ hne (Relation.name_injective hname)

theorem nodup_rows : ((s.rows count relations).map Prod.fst).Nodup := by
  simp [rows]

variable {relations}

theorem forall_mem_relationRows {P : α → Prop} (h : ∀ n, P (count n)) :
    ∀ i ∈ s.relationRows count, P i.2 := by
  intro i hi
  obtain ⟨x, -, rfl⟩ := List.mem_map.1 hi
  exact h x.2

theorem forall_mem_rows {P : α → Prop} (h : ∀ n, P (count n)) (hrelations : P relations) :
    ∀ i ∈ s.rows count relations, P i.2 := by
  simp only [rows, List.forall_mem_cons]
  exact ⟨h _, h _, h _, h _, hrelations, h _, List.forall_mem_nil _⟩

/-- Under the name of a relation there is what was made of its count, if it has one. -/
theorem lookup_relationRows (r : Relation) :
    (s.relationRows count).lookup r.name = (s.perRelation.get r).map count := by
  have hlookup : ∀ rs : List Relation, rs.Nodup →
      ((rs.filterMap fun r ↦ (s.perRelation.get r).map fun n ↦ (r, n)).map
        fun x ↦ (x.1.name, count x.2)).lookup r.name =
          if r ∈ rs then (s.perRelation.get r).map count else none := by
    intro rs
    induction rs with
    | nil => exact fun _ ↦ rfl
    | cons q rs ih =>
      intro hnodup
      obtain ⟨hq, hrs⟩ := List.nodup_cons.1 hnodup
      by_cases hr : r = q
      · subst hr
        rcases hget : s.perRelation.get r with _ | n
        · simp [hget, ih hrs, hq]
        · simp [hget]
      · have hname : (r.name == q.name) = false := by
          simpa using fun h ↦ hr (Relation.name_injective h)
        rcases hget : s.perRelation.get q with _ | n
        · simp [hget, ih hrs, hr]
        · simp [hget, ih hrs, hr, List.lookup_cons, hname]
  rw [relationRows, relationCounts, Relation.Table.toList, List.filterMap_map]
  exact (hlookup Relation.all Relation.nodup_all).trans (if_pos (Relation.mem_all r))

end

/-- The counters as a JSON value. -/
def json (s : Stats) : Json :=
  .object (s.rows countJson (.object (s.relationRows countJson)))

/-! ### What a reader gets -/

/-- What is written for a count, and what it is read as. -/
def countText (n : Count) : String × Json :=
  (toString n.toNat, countJson n)

theorem spells_relationRows (height : Nat) (s : Stats) :
    ∀ i ∈ s.relationRows countText, Spells (height + 1) i.2.1 i.2.2 :=
  s.forall_mem_relationRows countText (P := fun x ↦ Spells (height + 1) x.1 x.2)
    fun n ↦ Spells.number height n.toNat

theorem spells_rows (height : Nat) (s : Stats) {relations : String × Json}
    (h : Spells (height + 1) relations.1 relations.2) :
    ∀ i ∈ s.rows countText relations, Spells (height + 1) i.2.1 i.2.2 :=
  s.forall_mem_rows countText (P := fun x ↦ Spells (height + 1) x.1 x.2)
    (fun n ↦ Spells.number height n.toNat) h

/-- **A summary in one line** is read as the counters. -/
theorem spells_compactJson (height : Nat) (s : Stats) :
    Spells (height + 3) s.compactJson s.json := by
  have hrelations := CountTree.spells_line (s.isPlainKey_relationRows countText)
    (s.nodup_relationRows countText) (s.spells_relationRows height)
  rw [map_relationRows, map_relationRows] at hrelations
  have hsummary := CountTree.spells_line (s.isPlainKey_rows countText (_, _))
    (s.nodup_rows countText (_, _)) (s.spells_rows (height + 1) hrelations)
  rw [map_rows, map_rows] at hsummary
  rw [compactJson_eq]
  exact hsummary

/-- **A summary over several lines** is read as the counters. -/
theorem spells_prettyJson (height : Nat) (s : Stats) :
    Spells (height + 3) s.prettyJson s.json := by
  have hrelations := CountTree.spells_block 1 (s.isPlainKey_relationRows countText)
    (s.nodup_relationRows countText) (s.spells_relationRows height)
  rw [map_relationRows, map_relationRows] at hrelations
  have hsummary := CountTree.spells_block 0 (s.isPlainKey_rows countText (_, _))
    (s.nodup_rows countText (_, _)) (s.spells_rows (height + 1) hrelations)
  rw [map_rows, map_rows] at hsummary
  rw [prettyJson_eq]
  exact hsummary

/-- **Without its white space** a summary over several lines is the one in one line. -/
theorem shrinks_prettyJson (s : Stats) : Shrinks s.prettyJson s.compactJson := by
  let same : Count → String × String := fun n ↦ (toString n.toNat, toString n.toNat)
  have hcount : ∀ n : Count, Shrinks (same n).1 (same n).2 := fun n ↦ Shrinks.number n.toNat
  have hrelations := CountTree.shrinks_block 1 (s.isPlainKey_relationRows same)
    (s.forall_mem_relationRows same (P := fun x ↦ Shrinks x.1 x.2) hcount)
  rw [map_relationRows, map_relationRows] at hrelations
  have hsummary := CountTree.shrinks_block 0 (s.isPlainKey_rows same (_, _))
    (s.forall_mem_rows same (P := fun x ↦ Shrinks x.1 x.2) hcount hrelations)
  rw [map_rows, map_rows] at hsummary
  rw [prettyJson_eq, compactJson_eq]
  exact hsummary

end Stats

namespace Json

/-- A text that is read as a value in any context is read as this value alone. -/
theorem Spells.read?_eq {text : String} {j : Json} (h : Spells maxDepth text j) :
    read? text = some j := by
  have hall := h [] (by simp [EndsNumber])
  rw [List.append_nil] at hall
  simp [read?, hall, space_apply, Toml.Parser.atEnd]

/-- **The value says everything of the counters**: each counter stands under its key, and under the
name of a relation stands its count, if it has one. -/
structure Reports (j : Json) (s : Stats) : Prop where
  linesRead : j.member? "lines_read" = some (.number s.linesRead.toNat 0)
  triplesParsed : j.member? "triples_parsed" = some (.number s.triplesParsed.toNat 0)
  malformedLines : j.member? "malformed_lines" = some (.number s.malformedLines.toNat 0)
  triplesWritten : j.member? "triples_written" = some (.number s.triplesWritten.toNat 0)
  elapsedMs : j.member? "elapsed_ms" = some (.number s.elapsedMs.toNat 0)
  relation : ∀ r : Relation, ((j.member? "per_relation").bind fun o ↦ o.member? r.name) =
    (s.perRelation.get r).map fun n ↦ .number n.toNat 0

end Json

namespace Stats

variable {s s' : Stats}

theorem reports_json (s : Stats) : s.json.Reports s where
  linesRead := rfl
  triplesParsed := rfl
  malformedLines := rfl
  triplesWritten := rfl
  elapsedMs := rfl
  relation r := s.lookup_relationRows countJson r

theorem countJson_injective {m n : Count}
    (h : (Json.number m.toNat 0) = .number n.toNat 0) : m = n :=
  UInt64.toNat_inj.1 (Int.ofNat.inj (Json.number.inj h).1)

/-- A value reports one state of the counters at most. -/
theorem eq_of_reports {j : Json} (h : j.Reports s) (h' : j.Reports s') : s = s' := by
  have hcount : ∀ {k : String} {m n : Count}, j.member? k = some (.number m.toNat 0) →
      j.member? k = some (.number n.toNat 0) → m = n := by
    intro k m n hm hn
    exact countJson_injective (Option.some.inj (hm.symm.trans hn))
  have hrelation : s.perRelation = s'.perRelation := by
    refine Relation.Table.ext_get fun r ↦ ?_
    have hr := (h.relation r).symm.trans (h'.relation r)
    exact Option.map_injective (fun m n ↦ countJson_injective) hr
  have hlines := hcount h.linesRead h'.linesRead
  have hparsed := hcount h.triplesParsed h'.triplesParsed
  have hmalformed := hcount h.malformedLines h'.malformedLines
  have hwritten := hcount h.triplesWritten h'.triplesWritten
  have helapsed := hcount h.elapsedMs h'.elapsedMs
  cases s
  cases s'
  rw [Stats.mk.injEq]
  exact ⟨hlines, hparsed, hmalformed, hwritten, hrelation, helapsed⟩

end Stats

/-- **A summary loses nothing.** A reader of JSON gets the same value from the two forms of a
summary, and this value has every counter under its key, and for each relation with a count, and for
no other, the count under the relation's name. So two summaries that are alike, in the same form or
not, are of the same counters. The form in one line is the other one without the white space that
stands outside strings. -/
theorem summary_read_back (s : Stats) :
    (∃ j, Json.read? s.compactJson = some j ∧ Json.read? s.prettyJson = some j ∧ j.Reports s) ∧
    (∀ s' : Stats, s'.compactJson = s.compactJson ∨ s'.prettyJson = s.prettyJson ∨
      s'.compactJson = s.prettyJson → s' = s) ∧
    Json.unspaced s.prettyJson = s.compactJson := by
  have hcompact : ∀ s : Stats, Json.read? s.compactJson = some s.json :=
    fun s ↦ (s.spells_compactJson 125).read?_eq
  have hpretty : ∀ s : Stats, Json.read? s.prettyJson = some s.json :=
    fun s ↦ (s.spells_prettyJson 125).read?_eq
  refine ⟨⟨s.json, hcompact s, hpretty s, s.reports_json⟩, fun s' hsame ↦ ?_,
    s.shrinks_prettyJson.unspaced_eq⟩
  have hjson : s'.json = s.json := by
    rcases hsame with h | h | h
    · exact Option.some.inj ((hcompact s').symm.trans (h ▸ hcompact s))
    · exact Option.some.inj ((hpretty s').symm.trans (h ▸ hpretty s))
    · exact Option.some.inj ((hcompact s').symm.trans (h ▸ hpretty s))
  exact Stats.eq_of_reports (hjson ▸ s'.reports_json) s.reports_json

end PersonRelations
