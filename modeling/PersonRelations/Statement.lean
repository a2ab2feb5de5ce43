import PersonRelations.Relation
import PersonRelations.Text.Deletion
import PersonRelations.Text.Slice

/-!
# Statements

A line of the dump is a statement of three fields, with blanks and the closing full stop around
it. `StatementParser.parse` trims the line, cuts it at its first two spaces and normalises each
field: the angle brackets come off and the configured IRI prefixes are deleted wherever they
stand. A line with fewer than two inner spaces is malformed and keeps its normalised parts for
the report.
-/

namespace PersonRelations

/-! ### Triples -/

/-- A subject, a predicate and an object. -/
structure Triple where
  subject : String
  predicate : String
  object : String
  deriving DecidableEq, Repr, Inhabited

/-- The relation that the triple's predicate stands for, if it is in the table. -/
def Triple.relation? (t : Triple) : Option Relation :=
  Relation.ofCode? t.predicate

/-! ### Statements -/

/-- What a line of the dump turns out to be. -/
inductive Statement where
  /-- A line of three fields. -/
  | triple (t : Triple)
  /-- A line with fewer fields, which are kept for the report. -/
  | malformed (parts : List String)
  deriving DecidableEq, Repr

namespace Statement

/-- The characters trimmed from both ends of a line. -/
def isLineMargin (c : Char) : Bool :=
  c == ' ' || c == '\t' || c == '\r' || c == '\n' || c == '.'

/-- The characters trimmed from both ends of a field. -/
def isFieldMargin (c : Char) : Bool :=
  c == ' ' || c == '\r' || c == '<' || c == '>'

/-- The field without its margins and without the given words, deleted in turn. -/
def normalize (words : List (List Char)) (field : List Char) : List Char :=
  Text.deleteWords words (Text.trim isFieldMargin field)

/-- The raw fields of a line: the line without its margins, cut at its first two spaces. -/
def fields (line : List Char) : List (List Char) :=
  Text.cut ' ' 2 (Text.trim isLineMargin line)

/-- Three parts make a triple, any other number a malformed line. -/
def ofParts : List String → Statement
  | [s, p, o] => .triple ⟨s, p, o⟩
  | parts => .malformed parts

end Statement

/-- A reader of statement lines with a list of IRI prefixes to delete from every field. -/
structure StatementParser where
  /-- The prefixes, in the order in which they are deleted. -/
  prefixes : List String
  deriving DecidableEq, Repr

namespace StatementParser

/-- The IRI prefix of predicates. -/
def directProperty : String := "http://www.wikidata.org/prop/direct/"

/-- The IRI prefix of subjects and objects. -/
def entity : String := "http://www.wikidata.org/entity/"

instance : Inhabited StatementParser := ⟨⟨[directProperty, entity]⟩⟩

/-- The field with its margins and the prefixes removed. -/
def normalize (p : StatementParser) (field : List Char) : String :=
  String.ofList (Statement.normalize (p.prefixes.map String.toList) field)

/-- Reads one line, given without its terminator. -/
def parse (p : StatementParser) (line : String) : Statement :=
  Statement.ofParts ((Statement.fields line.toList).map p.normalize)

end StatementParser

end PersonRelations
