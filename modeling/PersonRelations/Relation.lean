/-!
# Person relations

The thirteen relations between persons and places that a dump is searched for. Each has the
predicate code under which statements carry it and a name, which is also the name of its output
file. `Relation.all` lists them in table order, the order in which files are opened, counts are
reported and errors are ranked.

Main statements: `Relation.ofCode?_eq_some_iff` (the code determines the relation and nothing
else has one) and `Relation.all_getElem_index` (`index` is the position in `all`).
-/

namespace PersonRelations

/-- A relation that is extracted into a file of its own. -/
inductive Relation where
  | hasCountry
  | hasBirthPlace
  | hasDeathPlace
  | hasGender
  | hasFather
  | hasMother
  | hasSpouse
  | hasNationality
  | hasChild
  | isLocatedIn
  | containsLocation
  | hasSibling
  | hasStepParent
  deriving DecidableEq, Repr, Inhabited

namespace Relation

/-- Every relation once, in table order. -/
def all : List Relation :=
  [hasCountry, hasBirthPlace, hasDeathPlace, hasGender, hasFather, hasMother, hasSpouse,
    hasNationality, hasChild, isLocatedIn, containsLocation, hasSibling, hasStepParent]

/-- The predicate code of the relation in a statement. -/
def code : Relation → String
  | hasCountry => "P17"
  | hasBirthPlace => "P19"
  | hasDeathPlace => "P20"
  | hasGender => "P21"
  | hasFather => "P22"
  | hasMother => "P25"
  | hasSpouse => "P26"
  | hasNationality => "P27"
  | hasChild => "P40"
  | isLocatedIn => "P131"
  | containsLocation => "P150"
  | hasSibling => "P3373"
  | hasStepParent => "P3448"

/-- The relation's name, in messages, in the summary and on its output file. -/
def name : Relation → String
  | hasCountry => "hasCountry"
  | hasBirthPlace => "hasBirthPlace"
  | hasDeathPlace => "hasDeathPlace"
  | hasGender => "hasGender"
  | hasFather => "hasFather"
  | hasMother => "hasMother"
  | hasSpouse => "hasSpouse"
  | hasNationality => "hasNationality"
  | hasChild => "hasChild"
  | isLocatedIn => "isLocatedIn"
  | containsLocation => "containsLocation"
  | hasSibling => "hasSibling"
  | hasStepParent => "hasStepParent"

/-- The relation with the given predicate code. Codes are compared exactly, letter case
included. -/
def ofCode? (s : String) : Option Relation :=
  all.find? fun r ↦ r.code == s

/-- The relation with the given name. -/
def ofName? (s : String) : Option Relation :=
  all.find? fun r ↦ r.name == s

/-- The position of the relation in `all`. -/
def index : Relation → Fin 13
  | hasCountry => 0
  | hasBirthPlace => 1
  | hasDeathPlace => 2
  | hasGender => 3
  | hasFather => 4
  | hasMother => 5
  | hasSpouse => 6
  | hasNationality => 7
  | hasChild => 8
  | isLocatedIn => 9
  | containsLocation => 10
  | hasSibling => 11
  | hasStepParent => 12

@[simp]
theorem mem_all (r : Relation) : r ∈ all := by
  cases r <;> decide

theorem nodup_all : all.Nodup := by
  decide

@[simp]
theorem length_all : all.length = 13 := rfl

theorem all_getElem_index (r : Relation) : all[r.index.val]? = some r := by
  cases r <;> rfl

theorem index_injective {r s : Relation} (h : r.index = s.index) : r = s := by
  have hr := all_getElem_index r
  rw [h, all_getElem_index s] at hr
  exact (Option.some.inj hr).symm

theorem name_injective {r s : Relation} (h : r.name = s.name) : r = s := by
  revert h
  cases r <;> cases s <;> decide

/-- Looking a code up finds the relation that has it, and nothing for any other text. -/
theorem ofCode?_eq_some_iff {s : String} {r : Relation} : ofCode? s = some r ↔ r.code = s := by
  constructor
  · intro h
    simpa using List.find?_some h
  · rintro rfl
    cases r <;> decide

end Relation

end PersonRelations
