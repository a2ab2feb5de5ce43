import PersonRelations.Proofs.Toml.Combinators
import PersonRelations.Toml.Document

/-!
# Documents denote well-formed trees

Whatever text a document has, no table in what it denotes has a key twice, and every integer fits
into 64 bits (`Toml.wellFormed_of_parse?`). This is what makes the order of keys immaterial: a table
that has each key once is the same to every look-up when its members are rearranged
(`Toml.lookup_eq_of_perm`).

A document is built table by table while its lines are read, so the property is stated of tables
under construction too (`Toml.Node.WellFormed`). A change at the end of a path keeps it if the
change itself does (`Toml.Node.WellFormed.update`), and all that lines do to a document are such
changes.
-/

namespace PersonRelations.Toml

open PersonRelations.Toml.Parser

/-! ### Well-formed values -/

/-- No key twice in any table, and no integer of more than 64 bits. -/
inductive Value.WellFormed : Value → Prop where
  | string (s : String) : WellFormed (.string s)
  | integer {n : Int} (hmin : Int64.minValue.toInt ≤ n) (hmax : n ≤ Int64.maxValue.toInt) :
    WellFormed (.integer n)
  | float (written : String) : WellFormed (.float written)
  | boolean (b : Bool) : WellFormed (.boolean b)
  | dateTime (written : String) : WellFormed (.dateTime written)
  | array {elements : List Value} (h : ∀ v ∈ elements, WellFormed v) :
    WellFormed (.array elements)
  | table {members : List (String × Value)} (hkeys : (members.map Prod.fst).Nodup)
    (h : ∀ m ∈ members, WellFormed m.2) : WellFormed (.table members)

/-- In a list with each key once, a key stands for what it is paired with. -/
theorem lookup_eq_some_iff {α : Type} {members : List (String × α)}
    (hkeys : (members.map Prod.fst).Nodup) {k : String} {a : α} :
    members.lookup k = some a ↔ (k, a) ∈ members := by
  induction members with
  | nil => simp
  | cons m members ih =>
    obtain ⟨k', a'⟩ := m
    obtain ⟨hk', hkeys⟩ := List.nodup_cons.1 hkeys
    by_cases hk : k = k'
    · subst hk
      have hnot : (k, a) ∉ members := fun h ↦ hk' (List.mem_map.2 ⟨_, h, rfl⟩)
      simp [hnot, eq_comm]
    · have hne : (k == k') = false := by simpa using hk
      simp [List.lookup_cons, hne, hk, ih hkeys]

/-- **The order of the members makes no difference** where each key stands once. -/
theorem lookup_eq_of_perm {α : Type} {members members' : List (String × α)}
    (hkeys : (members.map Prod.fst).Nodup) (h : members.Perm members') (k : String) :
    members.lookup k = members'.lookup k := by
  have hkeys' : (members'.map Prod.fst).Nodup := (h.map Prod.fst).nodup_iff.1 hkeys
  refine Option.ext fun a ↦ ?_
  rw [lookup_eq_some_iff hkeys, lookup_eq_some_iff hkeys', h.mem_iff]

/-- A well-formed table has no key twice. -/
theorem Value.WellFormed.nodup_keys {members : List (String × Value)}
    (h : (Value.table members).WellFormed) : (members.map Prod.fst).Nodup := by
  obtain _ | _ | _ | _ | _ | _ | ⟨hkeys, -⟩ := h
  exact hkeys

/-- What a key of a well-formed table stands for is well-formed. -/
theorem Value.WellFormed.of_lookup {members : List (String × Value)}
    (h : (Value.table members).WellFormed) {k : String} {v : Value}
    (hlookup : members.lookup k = some v) : v.WellFormed := by
  obtain _ | _ | _ | _ | _ | _ | ⟨hkeys, hmembers⟩ := h
  exact hmembers _ ((lookup_eq_some_iff hkeys).1 hlookup)

/-! ### Tables under construction -/

mutual

/-- What a key stands for is well-formed. -/
inductive Item.WellFormed : Item → Prop where
  | value {v : Value} (h : v.WellFormed) : Item.WellFormed (.value v)
  | table {t : Node} (h : t.WellFormed) : Item.WellFormed (.table t)
  | tables {ts : List Node} (h : ∀ t ∈ ts, Node.WellFormed t) : Item.WellFormed (.tables ts)

/-- The table has no key twice, and what its keys stand for is well-formed. -/
inductive Node.WellFormed : Node → Prop where
  | mk {implicit dotted : Bool} {members : List (String × Item)}
    (hkeys : (members.map Prod.fst).Nodup) (h : ∀ m ∈ members, Item.WellFormed m.2) :
    Node.WellFormed (.mk implicit dotted members)

end

theorem memberValues_eq (members : List (String × Item)) :
    memberValues members = members.map fun m ↦ (m.1, m.2.toValue) := by
  induction members with
  | nil => rfl
  | cons m members ih => rw [memberValues, ih, List.map_cons]

theorem nodeValues_eq (ts : List Node) : nodeValues ts = ts.map Node.toValue := by
  induction ts with
  | nil => rfl
  | cons t ts ih => rw [nodeValues, ih, List.map_cons]

mutual

theorem Item.WellFormed.toValue {i : Item} (h : i.WellFormed) : i.toValue.WellFormed := by
  cases h with
  | value h =>
    rw [Item.toValue]
    exact h
  | table h =>
    rw [Item.toValue]
    exact Node.WellFormed.toValue h
  | tables h =>
    rw [Item.toValue, nodeValues_eq]
    refine .array fun v hv ↦ ?_
    obtain ⟨t, ht, rfl⟩ := List.mem_map.1 hv
    exact Node.WellFormed.toValue (h t ht)
termination_by sizeOf i

theorem Node.WellFormed.toValue {t : Node} (h : t.WellFormed) : t.toValue.WellFormed := by
  cases h with
  | mk hkeys h =>
    rw [Node.toValue, memberValues_eq]
    refine .table (by rwa [List.map_map]) fun m hm ↦ ?_
    obtain ⟨m, hmem, rfl⟩ := List.mem_map.1 hm
    exact Item.WellFormed.toValue (h m hmem)
termination_by sizeOf t
decreasing_by
  have hmember := List.sizeOf_lt_of_mem hmem
  rcases m with ⟨k, i⟩
  simp only [Prod.mk.sizeOf_spec, Node.mk.sizeOf_spec] at hmember ⊢
  omega

end

namespace Node

theorem WellFormed.empty : empty.WellFormed :=
  .mk List.nodup_nil (List.forall_mem_nil _)

theorem WellFormed.passage (dotted : Bool) : (passage dotted).WellFormed :=
  .mk List.nodup_nil (List.forall_mem_nil _)

theorem WellFormed.get? {t : Node} (h : t.WellFormed) {k : String} {i : Item}
    (hi : t.get? k = some i) : i.WellFormed := by
  cases h with
  | mk hkeys h => exact h _ ((lookup_eq_some_iff hkeys).1 hi)

theorem WellFormed.set {t : Node} (h : t.WellFormed) (k : String) {i : Item} (hi : i.WellFormed) :
    (t.set k i).WellFormed := by
  cases h with
  | @mk implicit dotted members hkeys h =>
    rw [Node.set]
    split
    · -- a key that is there keeps its place
      refine .mk ?_ fun m hm ↦ ?_
      · rw [List.map_map]
        refine (congrArg List.Nodup (List.map_congr_left fun m _ ↦ ?_)).mpr hkeys
        show (if m.1 == k then (k, i) else m).1 = m.1
        split
        · exact (eq_of_beq ‹_›).symm
        · rfl
      · obtain ⟨m, hmem, rfl⟩ := List.mem_map.1 hm
        split
        · exact hi
        · exact h m hmem
    · rename_i hnew
      have hk : k ∉ members.map Prod.fst := by
        intro hk
        obtain ⟨⟨k', j⟩, hj, rfl⟩ := List.mem_map.1 hk
        rw [(lookup_eq_some_iff hkeys).2 hj] at hnew
        exact hnew rfl
      refine .mk ?_ fun m hm ↦ ?_
      · rw [List.map_append]
        exact hkeys.append (List.nodup_singleton k) (by simpa using hk)
      · rcases List.mem_append.1 hm with hmem | hmem
        · exact h m hmem
        · obtain rfl := List.mem_singleton.1 hmem
          exact hi

/-- **A change at the end of a path** leaves a well-formed table if the change itself does. -/
theorem WellFormed.update {dotted : Bool} {change : Node → Option Node}
    (hchange : ∀ t t', t.WellFormed → change t = some t' → t'.WellFormed) {path : List String}
    {t t' : Node} (h : t.WellFormed) (hupdate : t.update dotted change path = some t') :
    t'.WellFormed := by
  induction path generalizing t t' with
  | nil => exact hchange t t' h hupdate
  | cons k path ih =>
    rw [Node.update] at hupdate
    split at hupdate
    · obtain ⟨child, hchild, hset⟩ := Option.bind_eq_some_iff.1 hupdate
      cases hset
      exact h.set k (.table (ih (WellFormed.passage dotted) hchild))
    · cases hupdate
    · rename_i child hget
      split at hupdate
      · cases hupdate
      · cases h.get? hget with
        | table hold =>
          obtain ⟨new, hnew, hset⟩ := Option.bind_eq_some_iff.1 hupdate
          cases hset
          exact h.set k (.table (ih hold hnew))
    · rename_i ts hget
      split at hupdate
      · cases hupdate
      · rename_i last hlast
        cases h.get? hget with
        | tables hold =>
          obtain ⟨new, hnew, hset⟩ := Option.bind_eq_some_iff.1 hupdate
          cases hset
          refine h.set k (.tables fun t ht ↦ ?_)
          rcases List.mem_append.1 ht with hmem | hmem
          · exact hold t (List.mem_of_mem_dropLast hmem)
          · obtain rfl := List.mem_singleton.1 hmem
            exact ih (hold last (List.mem_of_getLast? hlast)) hnew

theorem WellFormed.addPair {t t' : Node} (h : t.WellFormed) {path : List String} {k : String}
    {v : Value} (hv : v.WellFormed) (hadd : t.addPair path k v = some t') : t'.WellFormed := by
  refine h.update (fun u u' hu hset ↦ ?_) hadd
  split at hset
  · cases hset
  · cases hset
    exact hu.set k (.value hv)

theorem WellFormed.openTable {t t' : Node} (h : t.WellFormed) {path : List String} {k : String}
    (hopen : t.openTable path k = some t') : t'.WellFormed := by
  refine h.update (fun u u' hu hset ↦ ?_) hopen
  split at hset
  · cases hset
    exact hu.set k (.table WellFormed.empty)
  · rename_i members hget
    cases hset
    cases hu.get? hget with
    | table hold =>
      cases hold with
      | mk hkeys h => exact hu.set k (.table (.mk hkeys h))
  · cases hset

theorem WellFormed.openElement {t t' : Node} (h : t.WellFormed) {path : List String} {k : String}
    (hopen : t.openElement path k = some t') : t'.WellFormed := by
  refine h.update (fun u u' hu hset ↦ ?_) hopen
  split at hset
  · cases hset
    refine hu.set k (.tables fun t ht ↦ ?_)
    obtain rfl := List.mem_singleton.1 ht
    exact WellFormed.empty
  · rename_i ts hget
    cases hset
    cases hu.get? hget with
    | tables hold =>
      refine hu.set k (.tables fun t ht ↦ ?_)
      rcases List.mem_append.1 ht with hmem | hmem
      · exact hold t hmem
      · obtain rfl := List.mem_singleton.1 hmem
        exact WellFormed.empty
  · cases hset

end Node

/-! ### Parsed values -/

theorem yields_integer :
    Yields integer fun n ↦ Int64.minValue.toInt ≤ n ∧ n ≤ Int64.maxValue.toInt := by
  refine Yields.guarded ((Yields.trivial _).mono fun n _ hn ↦ ?_)
  simpa using hn

theorem yields_scalar : Yields scalar Value.WellFormed := by
  refine Yields.orElse ?_ (Yields.orElse ?_ (Yields.orElse ?_ (Yields.orElse ?_ ?_)))
  · exact Yields.map ((Yields.trivial anyString).mono fun s _ ↦ .string s)
  · exact Yields.map ((Yields.trivial boolean).mono fun b _ ↦ .boolean b)
  · exact Yields.map ((Yields.trivial _).mono fun w _ ↦ .dateTime w)
  · exact Yields.map ((Yields.trivial _).mono fun w _ ↦ .float w)
  · exact Yields.map (yields_integer.mono fun n hn ↦ .integer hn.1 hn.2)

theorem yields_array {element : Parser Value} (h : Yields element Value.WellFormed) :
    Yields (array element) Value.WellFormed := by
  have hend : ∀ vs : List Value, (∀ v ∈ vs, v.WellFormed) →
      Yields (do char ']'; pure (Value.array vs)) Value.WellFormed :=
    fun vs hvs ↦ Yields.behind fun _ ↦ Yields.pure (.array hvs)
  refine Yields.behind fun _ ↦ Yields.behind fun _ ↦ Yields.bind (h.seqLeft.sepBy _) fun vs hvs ↦ ?_
  dsimp only
  split
  · exact Yields.behind fun _ ↦ hend vs hvs
  · exact hend vs hvs

theorem yields_inlinePair {element : Parser Value} (h : Yields element Value.WellFormed) :
    Yields (inlinePair element) fun pair ↦ pair.2.2.WellFormed :=
  Yields.behind fun _ ↦ Yields.behind fun _ ↦ Yields.behind fun _ ↦ Yields.bind h fun _ hv ↦
    Yields.behind fun _ ↦ Yields.pure hv

/-- Pairs added one after the other leave a well-formed table. -/
theorem wellFormed_of_foldlM {pairs : List (List String × String × Value)}
    (hpairs : ∀ pair ∈ pairs, pair.2.2.WellFormed) {t t' : Node} (ht : t.WellFormed)
    (hfold : pairs.foldlM (fun t (path, k, v) ↦ t.addPair path k v) t = some t') :
    t'.WellFormed := by
  induction pairs generalizing t with
  | nil =>
    cases hfold
    exact ht
  | cons pair pairs ih =>
    obtain ⟨hpair, hpairs⟩ := List.forall_mem_cons.1 hpairs
    rw [List.foldlM_cons] at hfold
    obtain ⟨u, hu, hrest⟩ := Option.bind_eq_some_iff.1 hfold
    exact ih hpairs (ht.addPair hpair hu) hrest

theorem yields_inlineTable {element : Parser Value} (h : Yields element Value.WellFormed) :
    Yields (inlineTable element) Value.WellFormed := by
  refine Yields.behind fun _ ↦ Yields.bind ((yields_inlinePair h).sepBy _) fun pairs hpairs ↦
    Yields.behind fun _ ↦ Yields.behind fun _ ↦ ?_
  split
  · rename_i t hfold
    exact Yields.pure (wellFormed_of_foldlM hpairs Node.WellFormed.empty hfold).toValue
  · exact Yields.failure

/-- **A value** is well-formed, however deep it is nested. -/
theorem yields_value (depth : Nat) : Yields (value depth) Value.WellFormed := by
  induction depth with
  | zero => exact yields_scalar
  | succ depth ih =>
    exact Yields.orElse yields_scalar (Yields.orElse (yields_array ih) (yields_inlineTable ih))

/-! ### Lines and documents -/

/-- Every value in the line is well-formed. -/
def Line.WellFormed : Line → Prop
  | .pair _ _ v => v.WellFormed
  | _ => True

theorem yields_line : Yields line Line.WellFormed := by
  refine Yields.orElse ?_ (Yields.orElse ?_ (Yields.orElse ?_ (Yields.orElse ?_ ?_)))
  · exact Yields.seqRight (Yields.pure trivial)
  · exact Yields.seqRight (Yields.pure trivial)
  · exact Yields.behind fun _ ↦ Yields.behind fun _ ↦ Yields.behind fun _ ↦ Yields.behind fun _ ↦
      Yields.pure trivial
  · exact Yields.behind fun _ ↦ Yields.behind fun _ ↦ Yields.behind fun _ ↦ Yields.behind fun _ ↦
      Yields.pure trivial
  · exact Yields.behind fun _ ↦ Yields.behind fun _ ↦ Yields.behind fun _ ↦
      Yields.bind (yields_value _) fun _ hv ↦ Yields.behind fun _ ↦ Yields.pure hv

theorem yields_lines : Yields lines fun ls ↦ ∀ l ∈ ls, l.WellFormed :=
  Yields.behind fun _ ↦ Yields.behind fun _ ↦ Yields.bind yields_line.seqLeft.many fun _ hls ↦
    Yields.behind fun _ ↦ Yields.pure hls

/-- **A line** added to a well-formed document leaves one. -/
theorem Draft.wellFormed_add {d d' : Draft} {l : Line} (hd : d.root.WellFormed)
    (hl : l.WellFormed) (hadd : d.add l = some d') : d'.root.WellFormed := by
  cases l with
  | blank =>
    cases hadd
    exact hd
  | header path k =>
    obtain ⟨root, hroot, hd'⟩ := Option.bind_eq_some_iff.1 hadd
    cases hd'
    exact hd.openTable hroot
  | elementHeader path k =>
    obtain ⟨root, hroot, hd'⟩ := Option.bind_eq_some_iff.1 hadd
    cases hd'
    exact hd.openElement hroot
  | pair path k v =>
    obtain ⟨root, hroot, hd'⟩ := Option.bind_eq_some_iff.1 hadd
    cases hd'
    exact hd.update (fun t t' ht hset ↦ ht.addPair hl hset) hroot

theorem Draft.wellFormed_foldlM {ls : List Line} (hls : ∀ l ∈ ls, l.WellFormed) {d d' : Draft}
    (hd : d.root.WellFormed) (hfold : ls.foldlM Draft.add d = some d') : d'.root.WellFormed := by
  induction ls generalizing d with
  | nil =>
    cases hfold
    exact hd
  | cons l ls ih =>
    obtain ⟨hl, hls⟩ := List.forall_mem_cons.1 hls
    rw [List.foldlM_cons] at hfold
    obtain ⟨e, he, hrest⟩ := Option.bind_eq_some_iff.1 hfold
    exact ih hls (Draft.wellFormed_add hd hl he) hrest

/-- **What a document denotes is well-formed**: no table has a key twice, and no integer has more
than 64 bits. -/
theorem wellFormed_of_parse? {text : String} {members : List (String × Value)}
    (h : parse? text = some members) : (Value.table members).WellFormed := by
  obtain ⟨⟨ls, rest⟩, hlines, hfold⟩ := Option.bind_eq_some_iff.1 h
  obtain ⟨d, hd, hmembers⟩ := Option.bind_eq_some_iff.1 hfold
  have hroot : d.root.WellFormed :=
    Draft.wellFormed_foldlM (yields_lines _ _ _ hlines) Node.WellFormed.empty hd
  rcases hnode : d.root with ⟨implicit, dotted, items⟩
  rw [hnode] at hmembers hroot
  cases hmembers
  have hvalue := hroot.toValue
  rwa [Node.toValue] at hvalue

end PersonRelations.Toml
