import PersonRelations.Log.Pattern.CharacterClass
import PersonRelations.Text.Alphabetic

/-!
# Patterns for the values of fields

A directive can ask for a field whose value matches a pattern, a regular expression. No event is
ever matched against one here, so all that is asked of a text is whether it is a pattern:
`Pattern.fault?` gives the reason if it is none.

Alternatives, groups, repetitions, classes and escapes are read from left to right, with a stack of
the groups that are open. A repetition has to follow something that can be repeated, and nothing
may be nested too deep. Counted repetitions are always refused, since the brace that would end one
ends the field.
-/

namespace PersonRelations.Log.Pattern

/-- Why a text is no pattern. -/
inductive Fault where
  /-- The text breaks the rules of patterns, or needs tables that are not there. -/
  | malformed
  /-- The text speaks of words in the sense of Unicode. -/
  | unicodeWord
  deriving DecidableEq, Repr

/-- The reason in words. -/
def Fault.message : Fault → String
  | malformed => "error building NFA"
  | unicodeWord =>
    "unsupported regex feature for DFAs: cannot build DFAs for regexes with Unicode word " ++
      "boundaries; switch to ASCII word boundaries, or heuristically enable Unicode word " ++
      "boundaries or use a different regex engine"

/-- What has been read of an alternative, piece by piece. -/
inductive Piece where
  /-- A change of mode, which cannot be repeated. -/
  | change
  /-- Anything else, with its height. -/
  | operand (height : Nat)
  deriving DecidableEq, Repr

/-- The height of a piece. -/
def Piece.height : Piece → Nat
  | change => 0
  | operand h => h

/-- What has been read of a group, or of the whole. -/
structure Group where
  /-- The mode in which the group goes on. -/
  mode : Mode := {}
  /-- The pieces of the alternative under way, the last first. -/
  pieces : List Piece := []
  /-- The heights of the alternatives before it. -/
  alternatives : List Nat := []

namespace Group

/-- The group with one more piece. -/
def push (g : Group) (p : Piece) : Group :=
  { g with pieces := p :: g.pieces }

/-- The height of the alternative under way. -/
def alternativeHeight (g : Group) : Nat :=
  jointHeight (g.pieces.map Piece.height)

/-- The group with its alternative ended. -/
def alternate (g : Group) : Group :=
  ⟨g.mode, [], g.alternativeHeight :: g.alternatives⟩

/-- The height of what is in the group. -/
def height (g : Group) : Nat :=
  jointHeight (g.alternativeHeight :: g.alternatives)

/-- The group with its last piece repeated. -/
def repeat? (g : Group) : Option Group :=
  match g.pieces with
  | .operand h :: pieces => some { g with pieces := .operand (h + 1) :: pieces }
  | _ => none

end Group

/-- A pattern read in part. -/
structure Reading where
  /-- The innermost group. -/
  group : Group := {}
  /-- The groups around it, from the inside. -/
  outer : List Group := []
  /-- The names of groups so far. -/
  names : List (List Char) := []
  /-- Whether a boundary of words in the sense of Unicode has come. -/
  unicodeWord : Bool := false

namespace Reading

/-- The reading with one more piece in the innermost group. -/
def push (r : Reading) (p : Piece) : Reading :=
  { r with group := r.group.push p }

/-- Opens a group in a mode. -/
def enter (r : Reading) (mode : Mode) : Reading :=
  { r with group := ⟨mode, [], []⟩, outer := r.group :: r.outer }

/-- Closes the innermost group. -/
def leave? (r : Reading) : Option Reading :=
  match r.outer with
  | [] => none
  | g :: outer => some { r with group := g.push (.operand (r.group.height + 1)), outer := outer }

/-- Takes in an element. -/
def atom? (r : Reading) (a : Atom) : Option Reading :=
  if a.isUsable r.group.mode then
    some { r.push (.operand 0) with
      unicodeWord := r.unicodeWord || (a == .wordBoundary && r.group.mode.unicode) }
  else none

/-- Whether the text can name a group that has none of the names so far. -/
def isNewName (r : Reading) (name : List Char) : Bool :=
  match name with
  | [] => false
  | c :: cs =>
    (c == '_' || Text.isLetter c) &&
      (cs.all fun c ↦ "_.[]".toList.contains c || Text.isLetter c || Text.isNumeral c) &&
      !r.names.contains name

/-- Opens a group with a name, which is read up to its closing angle bracket. -/
def enterNamed? (r : Reading) (cs : List Char) : Option (Reading × List Char) :=
  let name := cs.takeWhile (· != '>')
  match cs.dropWhile (· != '>') with
  | [] => none
  | _ :: rest =>
    if r.isNewName name then some ({ r.enter r.group.mode with names := name :: r.names }, rest)
    else none

/-- Changes the mode, for a group that is opened or for the rest of the innermost one. -/
def changeMode? (r : Reading) (cs : List Char) : Option (Reading × List Char) :=
  (changes? [] cs).bind fun (letters, opens, rest) ↦
    let mode := r.group.mode.change letters
    if opens then some (r.enter mode, rest)
    else if letters.isEmpty then none
    else some ({ r with group := { r.group.push .change with mode := mode } }, rest)

/-- Reads what follows an opening parenthesis. Conditions on what is around a match are not
taken. -/
def open? (r : Reading) (cs : List Char) : Option (Reading × List Char) :=
  match r.group.mode.skip cs with
  | '?' :: '!' :: _ => none
  | '?' :: '<' :: '!' :: _ => none
  | '?' :: 'P' :: '<' :: rest => r.enterNamed? rest
  | '?' :: '<' :: rest => r.enterNamed? rest
  | '?' :: rest => r.changeMode? rest
  | rest => some (r.enter r.group.mode, rest)

/-- Repeats the last piece; a question mark behind that makes it prefer fewer repetitions. -/
def repeat? (r : Reading) (cs : List Char) : Option (Reading × List Char) :=
  r.group.repeat?.map fun g ↦
    ({ r with group := g }, if cs.head? == some '?' then cs.tail else cs)

/-- Reads on from a character that is not skipped. -/
def step? (r : Reading) (c : Char) (cs : List Char) : Option (Reading × List Char) :=
  let mode := r.group.mode
  match c with
  | '(' => r.open? cs
  | ')' => r.leave?.map fun r ↦ (r, cs)
  | '|' => some ({ r with group := r.group.alternate }, cs)
  | '[' => (classHeight? mode cs).map fun (h, rest) ↦ (r.push (.operand h), rest)
  | '?' | '*' | '+' => r.repeat? cs
  | '\x7b' => none
  | '\\' => (Atom.escape? mode cs).bind fun (a, rest) ↦ (r.atom? a).map fun r ↦ (r, rest)
  | '.' => if mode.unicode then some (r.push (.operand 0), cs) else none
  | '^' | '$' => some (r.push (.operand 0), cs)
  | c => (r.atom? (.literal c false)).map fun r ↦ (r, cs)

/-- Reads a text to its end, in at most so many steps. -/
def run? : Nat → Reading → List Char → Option Reading
  | 0, _, _ => none
  | n + 1, r, cs =>
    match r.group.mode.skip cs with
    | [] => some r
    | c :: rest => (r.step? c rest).bind fun (r, rest) ↦ run? n r rest

end Reading

/-- The greatest height of a pattern. -/
def maxHeight : Nat := 250

/-- Why the text is no pattern, if it is none. -/
def fault? (cs : List Char) : Option Fault :=
  match Reading.run? (cs.length + 1) {} cs with
  | none => some .malformed
  | some r =>
    if !r.outer.isEmpty || maxHeight < r.group.height then some .malformed
    else if r.unicodeWord then some .unicodeWord
    else none

end PersonRelations.Log.Pattern
