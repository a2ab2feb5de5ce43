import PersonRelations.Proofs.Json.Reader
import PersonRelations.Proofs.Toml.Combinators

/-!
# Reading an object that is laid out with white space

An object can be written with white space before each key, behind each colon and before the closing
brace, or with none. `Json.layout` is the text in either case. `Json.Spells.layout` says what the
reader makes of it: the object, whatever the white space is, provided that the texts of the values
are read as these values. `Json.Shrinks.layout` says that without white space outside strings
there is one such text.

Both rest on the same fact about keys: they have no quote, no backslash and no control character
(`Json.IsPlainKey`), so what stands between the quotes is the key.
-/

namespace PersonRelations

namespace Json

open PersonRelations.Toml.Parser

/-- A text of characters that stand for themselves in a string. -/
def IsPlainKey (k : String) : Prop :=
  ∀ c ∈ k.toList, isPlain c = true

/-- A text of white space. -/
def IsSpaces (w : String) : Prop :=
  ∀ c ∈ w.toList, isSpace c = true

/-- One member of an object: white space, the key, a colon, white space and the value. -/
def memberText (before after : String) (member : String × String) : String :=
  before ++ "\"" ++ member.1 ++ "\":" ++ after ++ member.2

/-- An object with the given white space before each key, behind each colon and at the end. -/
def layout (before after last : String) (members : List (String × String)) : String :=
  "\x7b" ++ ",".intercalate (members.map (memberText before after)) ++ last ++ "\x7d"

/-- Nothing that could belong to a number comes next. -/
def EndsNumber (rest : List Char) : Prop :=
  ∀ c ∈ rest.head?, c.isDigit = false ∧ c ≠ '.' ∧ c ≠ 'e' ∧ c ≠ 'E'

/-- The text is read as the value, whatever follows that could not belong to a number. -/
def Spells (height : Nat) (text : String) (j : Json) : Prop :=
  ∀ rest, EndsNumber rest → value height (text.toList ++ rest) = some (j, rest)

/-! ### White space -/

variable {before after last : String} {rest : List Char} {height : Nat}

theorem space_apply (s : List Char) : space s = some ((), s.dropWhile isSpace) :=
  rfl

theorem space_append {w : String} (hw : IsSpaces w) (s : List Char) :
    space (w.toList ++ s) = space s := by
  rw [space_apply, space_apply, List.dropWhile_append_of_pos hw]

theorem space_cons {c : Char} (hc : isSpace c = false) (s : List Char) :
    space (c :: s) = some ((), c :: s) := by
  simp [space_apply, hc]

theorem mark_append {w : String} (hw : IsSpaces w) (c : Char) (s : List Char) :
    mark c (w.toList ++ s) = mark c s := by
  rw [mark, seqRight_apply, seqRight_apply, space_append hw]

theorem mark_cons {c : Char} (hc : isSpace c = false) (s : List Char) :
    mark c (c :: s) = some ((), s) := by
  simp [mark, space_cons hc]

theorem value_append {w : String} (hw : IsSpaces w) (height : Nat) (s : List Char) :
    value height (w.toList ++ s) = value height s := by
  cases height with
  | zero => rfl
  | succ height => rw [value, seqRight_apply, seqRight_apply, space_append hw]

/-! ### Strings -/

theorem quotedString_of_isPlainKey {k : String} (hk : IsPlainKey k) (rest : List Char) :
    quotedString ('"' :: (k.toList ++ '"' :: rest)) = some (k, rest) := by
  have hmany : many (satisfy isPlain <|> (char '\\' *> escapeTail))
      (k.toList.flatMap (fun c ↦ [c]) ++ '"' :: rest) = some (k.toList.map id, '"' :: rest) := by
    refine many_flatMap (fun _ ↦ True) _ id ?_ (fun _ _ _ ↦ trivial) trivial ?_ ?_
    · intro c hc rest _
      simp [hk c hc]
    · simp [isPlain]
    · simp
  rw [List.flatMap_singleton', List.map_id] at hmany
  simp [quotedString, hmany]

/-! ### Numbers -/

/-- The digits of a number are not begun by a zero, unless this is all. -/
theorem exists_toDigits_eq (n : Nat) :
    ∃ d ds, Nat.toDigits 10 n = d :: ds ∧ (d = '0' → n = 0) := by
  induction n using Nat.strong_induction_on with
  | _ n ih =>
    rcases Nat.lt_or_ge n 10 with hlt | hge
    · refine ⟨n.digitChar, [], Nat.toDigits_of_lt_base hlt, Nat.digitChar_eq_zero.1⟩
    · obtain ⟨d, ds, hds, hzero⟩ := ih (n / 10) (by omega)
      refine ⟨d, ds ++ [(n % 10).digitChar], ?_, fun h ↦ ?_⟩
      · rw [Nat.toDigits_of_base_le (by decide) hge, hds, List.cons_append]
      · have := hzero h
        omega

theorem numberOf_eq {ds : List Char} (hds : ∀ c ∈ ds, c.isDigit = true) :
    Toml.numberOf 10 ds = Nat.ofDigitChars 10 ds 0 := by
  rw [Toml.numberOf, Nat.ofDigitChars_eq_foldl]
  refine List.foldl_ext _ _ 0 fun n c hc ↦ ?_
  rw [Toml.digitValue, if_pos (hds c hc), Nat.mul_comm]

theorem wholePart_toDigits (n : Nat) (hrest : EndsNumber rest) :
    wholePart (Nat.toDigits 10 n ++ rest) = some (Nat.toDigits 10 n, rest) := by
  have hdigits : ∀ c ∈ Nat.toDigits 10 n, c.isDigit = true :=
    fun c hc ↦ Nat.isDigit_of_mem_toDigits (by decide) (by decide) hc
  obtain ⟨d, ds, hds, hzero⟩ := exists_toDigits_eq n
  rw [hds] at hdigits
  obtain ⟨hd, hmore⟩ := List.forall_mem_cons.1 hdigits
  by_cases h0 : d = '0'
  · obtain rfl : n = 0 := hzero h0
    simp [wholePart]
  · have hrun := takeWhile_append hmore fun c hc ↦ (hrest c hc).1
    rw [hds]
    simp [wholePart, hd, h0, hrun]

theorem numeral_toDigits (n : Nat) (hrest : EndsNumber rest) :
    numeral (Nat.toDigits 10 n ++ rest) = some (.number n 0, rest) := by
  have hvalue : Toml.numberOf 10 (Nat.toDigits 10 n) = n := by
    rw [numberOf_eq fun c hc ↦ Nat.isDigit_of_mem_toDigits (by decide) (by decide) hc,
      Nat.ofDigitChars_ten_toDigits]
  have hsign : ((char '-' *> pure true) <|> pure false : Toml.Parser Bool)
      (Nat.toDigits 10 n ++ rest) = some (false, Nat.toDigits 10 n ++ rest) := by
    obtain ⟨d, ds, hds, -⟩ := exists_toDigits_eq n
    have hd : d.isDigit = true :=
      Nat.isDigit_of_mem_toDigits (b := 10) (n := n) (by decide) (by decide) (by simp [hds])
    have hminus : d ≠ '-' := by
      rintro rfl
      exact absurd hd (by decide)
    simp [hds, hminus]
  have hfraction : fractionPart rest = some ([], rest) := by
    rcases rest with _ | ⟨c, rest⟩
    · rfl
    · have hc : c ≠ '.' := (hrest c rfl).2.1
      simp [fractionPart, hc]
  have hexponent : exponentPart rest = some (0, rest) := by
    rcases rest with _ | ⟨c, rest⟩
    · rfl
    · have hc : c ≠ 'e' ∧ c ≠ 'E' := (hrest c rfl).2.2
      simp [exponentPart, hc]
  simp only [numeral, bind_apply, hsign, Option.bind_some, wholePart_toDigits n hrest, hfraction,
    hexponent, pure_apply, List.append_nil, hvalue]
  rfl

/-- What begins with none of the letters of the words and with no quote is a number, an array or an
object. -/
theorem value_cons {c : Char} (hspace : isSpace c = false)
    (hc : c ≠ 'n' ∧ c ≠ 't' ∧ c ≠ 'f' ∧ c ≠ '"') (height : Nat) (cs : List Char) :
    value (height + 1) (c :: cs) =
      (numeral (c :: cs)).or
        ((elementsOf (value height) (c :: cs)).or (membersOf (value height) (c :: cs))) := by
  obtain ⟨hn, ht, hf, hq⟩ := hc
  have hword {w : String} {d : Char} {ds : List Char} (hw : w.toList = d :: ds) (hd : c ≠ d) :
      text w (c :: cs) = none := by
    rw [text, hw, List.isPrefixOf, beq_eq_false_iff_ne.2 hd.symm]
    rfl
  have hstring : quotedString (c :: cs) = none := by
    rw [quotedString, bind_apply, char_cons, if_neg hq]
    rfl
  simp only [value, seqRight_apply, space_cons hspace, Option.bind_some, orElse_apply, map_apply,
    hword (w := "null") rfl hn, hword (w := "true") rfl ht, hword (w := "false") rfl hf, hstring,
    Option.bind_none, Option.map_none, Option.none_or]

/-- **A count** is read as it is written. -/
theorem Spells.number (height n : Nat) : Spells (height + 1) (toString n) (.number n 0) := by
  intro rest hrest
  obtain ⟨d, ds, hds, -⟩ := exists_toDigits_eq n
  have hd : d.isDigit = true :=
    Nat.isDigit_of_mem_toDigits (b := 10) (n := n) (by decide) (by decide) (by simp [hds])
  have hne : ∀ c : Char, c.isDigit = false → d ≠ c := by
    rintro c hc rfl
    rw [hc] at hd
    cases hd
  have hnumeral := numeral_toDigits n hrest
  have hspace : isSpace d = false := by
    simp [isSpace, hne ' ' rfl, hne '\t' rfl, hne '\n' rfl, hne '\r' rfl]
  rw [Nat.toString_eq_repr, Nat.toList_repr, hds, List.cons_append] at *
  rw [value_cons hspace ⟨hne 'n' rfl, hne 't' rfl, hne 'f' rfl, hne '"' rfl⟩, hnumeral,
    Option.some_or]

/-! ### Objects -/

theorem EndsNumber.cons {c : Char} (hc : c.isDigit = false ∧ c ≠ '.' ∧ c ≠ 'e' ∧ c ≠ 'E')
    (rest : List Char) : EndsNumber (c :: rest) := by
  intro d hd
  cases hd
  exact hc

theorem EndsNumber.append {w : String} (hw : IsSpaces w) (hrest : EndsNumber rest) :
    EndsNumber (w.toList ++ rest) := by
  rcases hlist : w.toList with _ | ⟨c, cs⟩
  · exact hrest
  · have hc : isSpace c = true := hw c (by simp [hlist])
    refine EndsNumber.cons ?_ _
    simp only [isSpace, Bool.or_eq_true, beq_iff_eq] at hc
    rcases hc with ((rfl | rfl) | rfl) | rfl <;> decide

theorem toList_memberText (before after k w : String) (rest : List Char) :
    (memberText before after (k, w)).toList ++ rest =
      before.toList ++ '"' :: (k.toList ++ '"' :: ':' :: (after.toList ++ (w.toList ++ rest))) := by
  simp [memberText]

theorem memberOf_memberText (hbefore : IsSpaces before) (hafter : IsSpaces after) {k w : String}
    (hk : IsPlainKey k) {j : Json} (hw : Spells height w j) (hrest : EndsNumber rest) :
    memberOf (value height) ((memberText before after (k, w)).toList ++ rest) =
      some ((k, j), rest) := by
  have hvalue : value height (after.toList ++ (w.toList ++ rest)) = some (j, rest) := by
    rw [value_append hafter, hw rest hrest]
  rw [toList_memberText, memberOf, bind_apply, space_append hbefore, space_cons (by decide)]
  simp [quotedString_of_isPlainKey hk, mark_cons, hvalue, isSpace]

theorem intercalate_cons (sep w : List Char) (ws : List (List Char)) :
    sep.intercalate (w :: ws) = w ++ ws.flatMap fun w ↦ sep ++ w := by
  induction ws generalizing w with
  | nil => simp
  | cons w' ws ih =>
    rw [List.intercalate_cons_cons, ih w', List.flatMap_cons]
    simp only [List.append_assoc]

theorem toList_layout (before after last : String) (m : String × String)
    (ms : List (String × String)) (rest : List Char) :
    (layout before after last (m :: ms)).toList ++ rest =
      '\x7b' :: ((memberText before after m).toList ++
        ((ms.flatMap fun m ↦ [','] ++ (memberText before after m).toList) ++
          (last.toList ++ '\x7d' :: rest))) := by
  have hjoin : (",".intercalate ((m :: ms).map (memberText before after))).toList =
      (memberText before after m).toList ++
        ms.flatMap fun m ↦ [','] ++ (memberText before after m).toList := by
    rw [String.toList_intercalate, List.map_cons, List.map_cons, intercalate_cons, List.map_map,
      List.flatMap_map]
    rfl
  simp only [layout, String.toList_append, hjoin, List.append_assoc]
  rfl

/-- Members with a comma between them, up to something that is no comma. -/
theorem sepBy_memberText (hbefore : IsSpaces before) (hafter : IsSpaces after)
    {i : String × String × Json} {items : List (String × String × Json)}
    (hkeys : ∀ j ∈ i :: items, IsPlainKey j.1)
    (hvalues : ∀ j ∈ i :: items, Spells height j.2.1 j.2.2) (hrest : EndsNumber rest)
    (hend : mark ',' rest = none) :
    sepBy (memberOf (value height)) (mark ',')
        ((memberText before after (i.1, i.2.1)).toList ++
          ((items.flatMap fun j ↦ [','] ++ (memberText before after (j.1, j.2.1)).toList) ++ rest)) =
      some ((i.1, i.2.2) :: items.map fun j ↦ (j.1, j.2.2), rest) := by
  have hread : ∀ j ∈ i :: items, ∀ rest, EndsNumber rest →
      memberOf (value height) ((memberText before after (j.1, j.2.1)).toList ++ rest) =
        some ((j.1, j.2.2), rest) :=
    fun j hj rest hrest ↦ memberOf_memberText hbefore hafter (hkeys j hj) (hvalues j hj) hrest
  have hcomma : ∀ rest, mark ',' ([','] ++ rest) = some ((), rest) :=
    fun rest ↦ mark_cons (by decide) rest
  have hstop : ∀ rest, EndsNumber ([','] ++ rest) := fun rest ↦ EndsNumber.cons (by decide) rest
  exact sepBy_cons_flatMap EndsNumber
    (fun j : String × String × Json ↦ (memberText before after (j.1, j.2.1)).toList)
    (fun j ↦ (j.1, j.2.2)) hcomma hstop (List.cons_ne_nil ',' []) hread hrest hend

/-- An object is read when its members are. -/
theorem value_brace {body : List Char} {members : List (String × Json)}
    (hnodup : (members.map Prod.fst).Nodup) (hlast : IsSpaces last)
    (hbody : sepBy (memberOf (value height)) (mark ',') body =
      some (members, last.toList ++ '\x7d' :: rest)) :
    value (height + 1) ('\x7b' :: body) = some (.object members, rest) := by
  have hclosed : mark '\x7d' (last.toList ++ '\x7d' :: rest) = some ((), rest) := by
    rw [mark_append hlast, mark_cons (by decide)]
  have hobject : membersOf (value height) ('\x7b' :: body) = some (.object members, rest) := by
    simp only [membersOf, bind_apply, char_cons, if_pos, Option.bind_some, guarded_apply, hbody,
      decide_eq_true hnodup, hclosed, pure_apply]
  -- the other alternatives are refused at the brace
  have hnumeral : numeral ('\x7b' :: body) = none := by
    simp [numeral, wholePart]
  have helements : elementsOf (value height) ('\x7b' :: body) = none := by
    simp [elementsOf]
  rw [value_cons (by decide) (by decide), hnumeral, helements, hobject, Option.none_or,
    Option.none_or]

/-- **An object** is read member by member, whatever the white space is. -/
theorem Spells.layout (hbefore : IsSpaces before) (hafter : IsSpaces after)
    (hlast : IsSpaces last) {items : List (String × String × Json)}
    (hkeys : ∀ i ∈ items, IsPlainKey i.1) (hnodup : (items.map Prod.fst).Nodup)
    (hvalues : ∀ i ∈ items, Spells height i.2.1 i.2.2) :
    Spells (height + 1) (Json.layout before after last (items.map fun i ↦ (i.1, i.2.1)))
      (.object (items.map fun i ↦ (i.1, i.2.2))) := by
  intro rest hrest
  have hdistinct : ((items.map fun i ↦ (i.1, i.2.2)).map Prod.fst).Nodup := by
    rwa [List.map_map]
  rcases items with _ | ⟨i, items⟩
  · -- the reader sees that there is no first key
    have hnone : memberOf (value height) (last.toList ++ '\x7d' :: rest) = none := by
      simp [memberOf, space_append hlast, space_cons, isSpace, quotedString]
    have hopen : (Json.layout before after last []).toList ++ rest =
        '\x7b' :: (last.toList ++ '\x7d' :: rest) := by
      simp [Json.layout]
    rw [List.map_nil, hopen]
    exact value_brace hdistinct hlast (by simp [sepBy, sepBy1, hnone])
  · rw [List.map_cons, toList_layout, List.flatMap_map]
    refine value_brace hdistinct hlast (sepBy_memberText hbefore hafter hkeys hvalues
      ((EndsNumber.cons (by decide) rest).append hlast) ?_)
    rw [mark_append hlast]
    simp [mark, space_cons, isSpace]

/-! ### A text without its white space -/

/-- The second text is the first without the white space outside strings, also as a part of a
longer text. -/
def Shrinks (w w' : String) : Prop :=
  ∀ rest, outside (w.toList ++ rest) = w'.toList ++ outside rest

theorem Shrinks.unspaced_eq {w w' : String} (h : Shrinks w w') : unspaced w = w' := by
  have hall := h []
  rw [List.append_nil, outside, List.append_nil] at hall
  rw [unspaced, hall, String.ofList_toList]

theorem Shrinks.append {v v' w w' : String} (hv : Shrinks v v') (hw : Shrinks w w') :
    Shrinks (v ++ w) (v' ++ w') := by
  intro rest
  rw [String.toList_append, String.toList_append, List.append_assoc, hv, hw, List.append_assoc]

theorem IsSpaces.shrinks {w : String} (h : IsSpaces w) : Shrinks w "" := by
  intro rest
  rw [IsSpaces] at h
  show _ = outside rest
  generalize w.toList = cs at h ⊢
  induction cs with
  | nil => rfl
  | cons c cs ih =>
    obtain ⟨hc, hcs⟩ := List.forall_mem_cons.1 h
    rw [List.cons_append, outside, if_pos hc, ih hcs]

/-- A text that has neither white space nor a quote stays. -/
theorem Shrinks.of_forall {w : String} (h : ∀ c ∈ w.toList, isSpace c = false ∧ c ≠ '"') :
    Shrinks w w := by
  intro rest
  generalize w.toList = cs at h ⊢
  induction cs with
  | nil => rfl
  | cons c cs ih =>
    obtain ⟨⟨hspace, hquote⟩, hcs⟩ := List.forall_mem_cons.1 h
    rw [List.cons_append, outside, if_neg (by simp [hspace]), if_neg hquote, ih hcs,
      List.cons_append]

theorem Shrinks.number (n : Nat) : Shrinks (toString n) (toString n) := by
  refine Shrinks.of_forall fun c hc ↦ ?_
  rw [Nat.toString_eq_repr, Nat.toList_repr] at hc
  have hdigit : c.isDigit = true := Nat.isDigit_of_mem_toDigits (by decide) (by decide) hc
  constructor
  · rw [Bool.eq_false_iff]
    intro hspace
    simp only [isSpace, Bool.or_eq_true, beq_iff_eq] at hspace
    rcases hspace with ((rfl | rfl) | rfl) | rfl <;> exact absurd hdigit (by decide)
  · rintro rfl
    exact absurd hdigit (by decide)

theorem inside_of_isPlainKey {k : String} (hk : IsPlainKey k) (rest : List Char) :
    inside (k.toList ++ '"' :: rest) = k.toList ++ '"' :: outside rest := by
  rw [IsPlainKey] at hk
  generalize k.toList = cs at hk ⊢
  induction cs with
  | nil => simp [inside]
  | cons c cs ih =>
    obtain ⟨hc, hcs⟩ := List.forall_mem_cons.1 hk
    have hquote : c ≠ '"' ∧ c ≠ '\\' := by
      simp only [isPlain, Bool.and_eq_true, bne_iff_ne] at hc
      exact ⟨hc.1.2, hc.2⟩
    rw [List.cons_append, inside, if_neg hquote.1, ih hcs, List.cons_append]
    rintro c' cs' hback
    exact absurd hback hquote.2

theorem Shrinks.memberText (hbefore : IsSpaces before) (hafter : IsSpaces after) {k w w' : String}
    (hk : IsPlainKey k) (hw : Shrinks w w') :
    Shrinks (memberText before after (k, w)) (Json.memberText "" "" (k, w')) := by
  intro rest
  rw [toList_memberText, hbefore.shrinks]
  show outside ('"' :: (k.toList ++ '"' :: ':' :: (after.toList ++ (w.toList ++ rest)))) = _
  rw [outside, if_neg (by decide), if_pos rfl, inside_of_isPlainKey hk, outside,
    if_neg (by decide), if_neg (by decide), hafter.shrinks, hw]
  simp [Json.memberText]

/-- **An object** without the white space outside strings is laid out without any. -/
theorem Shrinks.layout (hbefore : IsSpaces before) (hafter : IsSpaces after)
    (hlast : IsSpaces last) {items : List (String × String × String)}
    (hkeys : ∀ i ∈ items, IsPlainKey i.1) (hvalues : ∀ i ∈ items, Shrinks i.2.1 i.2.2) :
    Shrinks (Json.layout before after last (items.map fun i ↦ (i.1, i.2.1)))
      (Json.layout "" "" "" (items.map fun i ↦ (i.1, i.2.2))) := by
  have hmembers : Shrinks
      (",".intercalate ((items.map fun i ↦ (i.1, i.2.1)).map (Json.memberText before after)))
      (",".intercalate ((items.map fun i ↦ (i.1, i.2.2)).map (Json.memberText "" ""))) := by
    induction items with
    | nil => exact fun rest ↦ rfl
    | cons i items ih =>
      obtain ⟨hkey, hkeys⟩ := List.forall_mem_cons.1 hkeys
      obtain ⟨hvalue, hvalues⟩ := List.forall_mem_cons.1 hvalues
      have hfirst := Shrinks.memberText hbefore hafter hkey hvalue
      rcases items with _ | ⟨i', items⟩
      · simpa using hfirst
      · have hcomma : Shrinks "," "," := Shrinks.of_forall (by simp [isSpace])
        simp only [List.map_cons, String.intercalate_cons_cons] at ih ⊢
        exact (hfirst.append hcomma).append (ih hkeys hvalues)
  have hopen : Shrinks "\x7b" "\x7b" := Shrinks.of_forall (by simp [isSpace])
  have hclose : Shrinks "\x7d" "\x7d" := Shrinks.of_forall (by simp [isSpace])
  exact ((hopen.append hmembers).append hlast.shrinks).append hclose

end Json

end PersonRelations
