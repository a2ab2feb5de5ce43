import PersonRelations.Proofs.Statement.Normalization

/-!
# Written statements are read back

A dump writes a statement as three terms and a full stop, the subject and the predicate in angle
brackets behind their IRI prefix, the object either as an IRI or as a literal (`writeStatement`).
The parser with the default prefixes gives back what was written (`parse_writeStatement`), also
where an identifier is empty and where the object has spaces in it.

The one thing that could go wrong is that a prefix is found where none was written. Both prefixes
are looked for everywhere, and they share a long beginning. But a prefix has its first character in
no other place, so an occurrence that begins inside a written prefix begins with it
(`Text.not_infix_append`); and the two prefixes differ before either of them ends.
-/

namespace PersonRelations

namespace Text

/-! ### Occurrences across a border -/

/-- An occurrence does not begin where its first character is missing. -/
theorem infix_of_infix_append {c : Char} {w a s : List Char} (ha : c ∉ a)
    (h : c :: w <:+: a ++ s) : c :: w <:+: s := by
  induction a with
  | nil => exact h
  | cons d a ih =>
    rw [List.cons_append, List.infix_cons_iff] at h
    rcases h with hhere | hlater
    · have hcd : c = d := (List.cons_prefix_cons.1 hhere).1
      exact absurd (hcd ▸ List.mem_cons_self) ha
    · exact ih (fun hmem ↦ ha (List.mem_cons_of_mem d hmem)) hlater

/-- **No occurrence straddles the border.** Let `c :: a` be followed by `s`, with `c` nowhere in
`a`. A word that begins with `c`, does not occur in `s`, and differs from `c :: a` before either
ends does not occur at all. -/
theorem not_infix_append {c : Char} {w a s : List Char} (ha : c ∉ a) (hwa : ¬c :: w <+: c :: a)
    (haw : ¬c :: a <+: c :: w) (hs : ¬c :: w <:+: s) : ¬c :: w <:+: c :: a ++ s := by
  intro h
  rw [List.cons_append, List.infix_cons_iff] at h
  rcases h with hhere | hlater
  · have hfront : c :: a <+: c :: (a ++ s) := List.prefix_append (c :: a) s
    exact (List.prefix_or_prefix_of_prefix hhere hfront).elim hwa haw
  · exact hs (infix_of_infix_append ha hlater)

end Text

/-! ### What the default prefixes leave -/

namespace StatementParser

/-- The words that the default parser deletes. -/
def defaultWords : List (List Char) :=
  [directProperty.toList, entity.toList]

/-- None of the default prefixes occurs in the text. -/
def IsFree (s : List Char) : Prop :=
  ∀ w ∈ defaultWords, ¬w <:+: s

instance (s : List Char) : Decidable (IsFree s) :=
  inferInstanceAs (Decidable (∀ w ∈ defaultWords, ¬w <:+: s))

/-- A prefix begins with a letter and ends in a slash. -/
theorem ends_of_mem_defaultWords {w : List Char} (hw : w ∈ defaultWords) :
    w.head? = some 'h' ∧ w.getLast? = some '/' := by
  have hall : ∀ v ∈ defaultWords, v.head? = some 'h' ∧ v.getLast? = some '/' := by decide +kernel
  exact hall w hw

variable {s : List Char}

/-- The predicates' prefix is found neither in the entities' prefix nor across its end. -/
theorem not_infix_entity_append (hs : IsFree s) :
    ¬directProperty.toList <:+: entity.toList ++ s := by
  have hfree : ¬directProperty.toList <:+: s := hs _ List.mem_cons_self
  exact Text.not_infix_append (by decide +kernel) (by decide +kernel) (by decide +kernel) hfree

/-- **A prefix in front** is all that is deleted. -/
theorem deleteWords_append {w : List Char} (hw : w ∈ defaultWords) (hs : IsFree s) :
    Text.deleteWords defaultWords (w ++ s) = s := by
  have hdirect : Text.deleteAll directProperty.toList s = s :=
    Text.deleteAll_of_no_occurrence (hs _ (by simp [defaultWords]))
  have hentity : Text.deleteAll entity.toList s = s :=
    Text.deleteAll_of_no_occurrence (hs _ (by simp [defaultWords]))
  have hturns : ∀ t, Text.deleteWords defaultWords t =
      Text.deleteAll entity.toList (Text.deleteAll directProperty.toList t) := fun _ ↦ rfl
  have hcases : w = directProperty.toList ∨ w = entity.toList := by simpa [defaultWords] using hw
  rcases hcases with rfl | rfl
  · rw [hturns, Text.deleteAll_append_self (by decide +kernel), hdirect, hentity]
  · rw [hturns, Text.deleteAll_of_no_occurrence (not_infix_entity_append hs),
      Text.deleteAll_append_self (by decide +kernel), hentity]

end StatementParser

/-! ### Fields -/

namespace Statement

open StatementParser

/-- A text that does not end in one of the given characters, behind another one that does not. -/
theorem last_append {margins w s : List Char} (hw : ∀ c ∈ w.getLast?, c ∉ margins)
    (hs : ∀ c ∈ s.getLast?, c ∉ margins) : ∀ c ∈ (w ++ s).getLast?, c ∉ margins := by
  intro c hc
  rw [List.getLast?_append] at hc
  cases hlast : s.getLast? with
  | none =>
    rw [hlast, Option.none_or] at hc
    exact hw c hc
  | some d =>
    rw [hlast, Option.some_or] at hc
    exact hs c (hlast.trans hc)

/-- **An IRI in angle brackets** is read as what stands behind the prefix. -/
theorem normalize_iri {w s : List Char} (hw : w ∈ defaultWords) (hs : IsFree s)
    (hlast : ∀ c ∈ s.getLast?, c ∉ fieldMargins) :
    normalize defaultWords ('<' :: (w ++ s) ++ ['>']) = s := by
  obtain ⟨hhead, hend⟩ := ends_of_mem_defaultWords hw
  have hcore : Text.IsCore fieldMargins ('<' :: (w ++ s) ++ ['>']) (w ++ s) := by
    refine ⟨⟨['<'], ['>'], rfl, by simp [fieldMargins], by simp [fieldMargins]⟩, ?_,
      last_append ?_ hlast⟩
    · rw [List.head?_append, hhead]
      simp [fieldMargins]
    · rw [hend]
      simp [fieldMargins]
  rw [normalize, hcore.trim_eq isFieldMargin_iff, deleteWords_append hw hs]

/-- **A literal** is read as it is. -/
theorem normalize_literal {s : List Char} (hs : IsFree s)
    (hhead : ∀ c ∈ s.head?, c ∉ fieldMargins) (hlast : ∀ c ∈ s.getLast?, c ∉ fieldMargins) :
    normalize defaultWords s = s := by
  have hcore : Text.IsCore fieldMargins s s :=
    ⟨⟨[], [], by simp, by simp, by simp⟩, hhead, hlast⟩
  rw [normalize, hcore.trim_eq isFieldMargin_iff, Text.deleteWords_of_no_occurrence hs]

end Statement

/-! ### Written statements -/

/-- The object of a statement. -/
inductive ObjectTerm where
  /-- An entity, by what follows the prefix of its IRI. -/
  | entity (name : String)
  /-- A literal. -/
  | literal (text : String)
  deriving DecidableEq, Repr

namespace ObjectTerm

/-- What a triple has of the object. -/
def value : ObjectTerm → String
  | entity name => name
  | literal text => text

/-- The object as a dump writes it. -/
def written : ObjectTerm → String
  | entity name => "<http://www.wikidata.org/entity/" ++ name ++ ">"
  | literal text => text

theorem toList_written_entity (name : String) : (entity name).written.toList =
    '<' :: (StatementParser.entity.toList ++ name.toList) ++ ['>'] := by
  have hopen : "<http://www.wikidata.org/entity/" = "<" ++ StatementParser.entity := by
    decide +kernel
  have hwritten : (entity name).written = "<" ++ StatementParser.entity ++ name ++ ">" :=
    congrArg (fun s ↦ s ++ name ++ ">") hopen
  have hless : "<".toList = ['<'] := rfl
  have hgreater : ">".toList = ['>'] := rfl
  simp only [hwritten, String.toList_append, hless, hgreater, List.cons_append, List.nil_append]

/-- The objects that can be read back. What an IRI begins with makes no difference; a literal has
both its ends open to trimming, as part of its field and as the end of its line. -/
def IsWritable : ObjectTerm → Prop
  | entity name =>
    StatementParser.IsFree name.toList ∧ ∀ c ∈ name.toList.getLast?, c ∉ [' ', '\r', '<', '>']
  | literal text =>
    StatementParser.IsFree text.toList ∧ text ≠ "" ∧
      (∀ c ∈ text.toList.head?, c ∉ [' ', '\r', '<', '>']) ∧
      ∀ c ∈ text.toList.getLast?, c ∉ [' ', '\t', '\r', '\n', '.', '<', '>']

end ObjectTerm

/-- The subjects and predicates that can be read back. -/
structure IsName (s : String) : Prop where
  free : StatementParser.IsFree s.toList
  space_notMem : ' ' ∉ s.toList
  last_notMem : ∀ c ∈ s.toList.getLast?, c ∉ ['\r', '<', '>']

/-- A statement as a dump writes it. -/
def writeStatement (subject predicate : String) (object : ObjectTerm) : String :=
  "<http://www.wikidata.org/entity/" ++ subject ++ "> <http://www.wikidata.org/prop/direct/" ++
    predicate ++ "> " ++ object.written ++ " ."

theorem toList_writeStatement (subject predicate : String) (object : ObjectTerm) :
    (writeStatement subject predicate object).toList =
      '<' :: (StatementParser.entity.toList ++ subject.toList) ++ ['>'] ++
        ' ' :: ('<' :: (StatementParser.directProperty.toList ++ predicate.toList) ++ ['>'] ++
          ' ' :: (object.written.toList ++ [' ', '.'])) := by
  have hopen : "<http://www.wikidata.org/entity/" = "<" ++ StatementParser.entity := by
    decide +kernel
  have hnext : "> <http://www.wikidata.org/prop/direct/" =
      ">" ++ " " ++ "<" ++ StatementParser.directProperty := by
    decide +kernel
  have hwritten : writeStatement subject predicate object =
      "<" ++ StatementParser.entity ++ subject ++
        (">" ++ " " ++ "<" ++ StatementParser.directProperty) ++ predicate ++ "> " ++
        object.written ++ " ." := by
    rw [← hopen, ← hnext]
    rfl
  have hless : "<".toList = ['<'] := rfl
  have hgreater : ">".toList = ['>'] := rfl
  have hspace : " ".toList = [' '] := rfl
  have hclose : "> ".toList = ['>', ' '] := rfl
  have hstop : " .".toList = [' ', '.'] := rfl
  simp only [hwritten, String.toList_append, hless, hgreater, hspace, hclose, hstop,
    List.append_assoc, List.cons_append, List.nil_append]

section

open Statement StatementParser

/-- A name does not end in any margin of a field: there is no space in it at all. -/
theorem IsName.last_fieldMargins {s : String} (h : IsName s) :
    ∀ c ∈ s.toList.getLast?, c ∉ fieldMargins := by
  intro c hc hmem
  rcases List.mem_cons.1 hmem with rfl | hother
  · exact h.space_notMem (List.mem_of_getLast? hc)
  · exact h.last_notMem c hc hother

/-- The field of a name in angle brackets has no space, and is read as the name. -/
theorem IsName.field {s : String} (h : IsName s) {w : List Char} (hw : w ∈ defaultWords) :
    ' ' ∉ '<' :: (w ++ s.toList) ++ ['>'] ∧
      (default : StatementParser).normalize ('<' :: (w ++ s.toList) ++ ['>']) = s := by
  have hspace : ∀ v ∈ defaultWords, ' ' ∉ v := by decide +kernel
  refine ⟨by simp [hspace w hw, h.space_notMem], ?_⟩
  show String.ofList (normalize defaultWords _) = s
  rw [normalize_iri hw h.free h.last_fieldMargins, String.ofList_toList]

namespace ObjectTerm

variable {o : ObjectTerm}

/-- What is written of an object is not empty and does not end in a margin of a line. -/
theorem IsWritable.written_ends (h : o.IsWritable) :
    o.written.toList ≠ [] ∧ ∀ c ∈ o.written.toList.getLast?, c ∉ lineMargins := by
  cases o with
  | entity name =>
    rw [toList_written_entity]
    refine ⟨by simp, fun c hc ↦ ?_⟩
    rw [List.getLast?_concat] at hc
    cases hc
    decide
  | literal text =>
    obtain ⟨-, hne, -, hlast⟩ := h
    refine ⟨String.toList_eq_nil_iff.not.2 hne, fun c hc hmem ↦ hlast c hc ?_⟩
    exact List.mem_append_left ['<', '>'] hmem

/-- What is written of an object is read as the object. -/
theorem IsWritable.normalize_written (h : o.IsWritable) :
    (default : StatementParser).normalize o.written.toList = o.value := by
  show String.ofList (normalize defaultWords _) = _
  cases o with
  | entity name =>
    obtain ⟨hfree, hlast⟩ := h
    rw [toList_written_entity, normalize_iri (by simp [defaultWords]) hfree hlast, value,
      String.ofList_toList]
  | literal text =>
    obtain ⟨hfree, -, hhead, hlast⟩ := h
    have hsubset : fieldMargins ⊆ [' ', '\t', '\r', '\n', '.', '<', '>'] := by
      simp [fieldMargins]
    have hlast' : ∀ c ∈ text.toList.getLast?, c ∉ fieldMargins :=
      fun c hc hmem ↦ hlast c hc (hsubset hmem)
    show String.ofList (normalize defaultWords text.toList) = text
    rw [normalize_literal hfree hhead hlast', String.ofList_toList]

end ObjectTerm

end

open Statement StatementParser in
/-- **Written statements are read back.** A statement whose subject and predicate are names and
whose object is writable, written with the default prefixes and read by the default parser, is the
triple of what was written. Names and the names of entities may be empty; objects may have spaces in
them. -/
theorem parse_writeStatement (subject predicate : String) (object : ObjectTerm)
    (hsubject : IsName subject) (hpredicate : IsName predicate) (hobject : object.IsWritable) :
    (default : StatementParser).parse (writeStatement subject predicate object) =
      .triple ⟨subject, predicate, object.value⟩ := by
  obtain ⟨ha, hsubject'⟩ := hsubject.field (w := entity.toList) (by simp [defaultWords])
  obtain ⟨hb, hpredicate'⟩ := hpredicate.field (w := directProperty.toList) (by simp [defaultWords])
  obtain ⟨hne, hlast⟩ := hobject.written_ends
  -- the three fields, with a space between each two of them
  obtain ⟨t, hsplit⟩ : ∃ t, SplitsAs t ('<' :: (entity.toList ++ subject.toList) ++ ['>'])
      ('<' :: (directProperty.toList ++ predicate.toList) ++ ['>']) object.written.toList :=
    ⟨_, rfl, ha, hb⟩
  have hcore : Text.IsCore lineMargins (writeStatement subject predicate object).toList t := by
    refine ⟨⟨[], [' ', '.'], ?_, by simp, by simp [lineMargins]⟩, ?_, ?_⟩
    · rw [hsplit.eq, toList_writeStatement]
      simp only [List.nil_append, List.append_assoc, List.cons_append]
    · rw [hsplit.eq]
      simp [lineMargins]
    · intro c hc
      have hend : t.getLast? = object.written.toList.getLast? := by
        rw [hsplit.eq, List.getLast?_append_of_ne_nil _ (by simp), ← List.singleton_append,
          List.getLast?_append_of_ne_nil _ (by simp), List.getLast?_append_of_ne_nil _ (by simp),
          ← List.singleton_append, List.getLast?_append_of_ne_nil _ hne]
      rw [hend] at hc
      exact hlast c hc
  rw [parse_of_splitsAs hcore hsplit, hsubject', hpredicate', hobject.normalize_written]

/-- Identifiers that begin like a prefix or are empty, an IRI and a literal with spaces in them. -/
theorem parse_writeStatement_stems :
    IsName "http://www.wikidata.org/prop/" ∧ IsName "" ∧
      (ObjectTerm.entity " of http://www.wikidata.org/").IsWritable ∧
      (ObjectTerm.literal "\"some <text> .\"@en").IsWritable ∧
      (default : StatementParser).parse
        ("<http://www.wikidata.org/entity/http://www.wikidata.org/prop/> " ++
          "<http://www.wikidata.org/prop/direct/> " ++
          "<http://www.wikidata.org/entity/ of http://www.wikidata.org/> .") =
          .triple ⟨"http://www.wikidata.org/prop/", "", " of http://www.wikidata.org/"⟩ ∧
      (default : StatementParser).parse
        ("<http://www.wikidata.org/entity/> " ++
          "<http://www.wikidata.org/prop/direct/http://www.wikidata.org/prop/> " ++
          "\"some <text> .\"@en .") =
          .triple ⟨"", "http://www.wikidata.org/prop/", "\"some <text> .\"@en"⟩ := by
  have hstem : IsName "http://www.wikidata.org/prop/" := by
    refine ⟨by decide +kernel, by decide +kernel, ?_⟩
    rw [show "http://www.wikidata.org/prop/".toList.getLast? = some '/' by decide +kernel]
    simp
  have hempty : IsName "" := ⟨by decide +kernel, by decide +kernel, by simp⟩
  have hentity : (ObjectTerm.entity " of http://www.wikidata.org/").IsWritable := by
    refine ⟨by decide +kernel, ?_⟩
    rw [show " of http://www.wikidata.org/".toList.getLast? = some '/' by decide +kernel]
    simp
  have hliteral : (ObjectTerm.literal "\"some <text> .\"@en").IsWritable := by
    refine ⟨by decide +kernel, by decide +kernel, ?_, ?_⟩
    · rw [show "\"some <text> .\"@en".toList.head? = some '"' by decide +kernel]
      simp
    · rw [show "\"some <text> .\"@en".toList.getLast? = some 'n' by decide +kernel]
      simp
  have hfirst := parse_writeStatement _ _ _ hstem hempty hentity
  have hsecond := parse_writeStatement _ _ _ hempty hstem hliteral
  refine ⟨hstem, hempty, hentity, hliteral, Eq.trans (congrArg _ ?_) hfirst,
    Eq.trans (congrArg _ ?_) hsecond⟩
  · decide +kernel
  · decide +kernel

end PersonRelations
