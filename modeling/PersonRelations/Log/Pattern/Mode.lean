import PersonRelations.Text.CodePoints

/-!
# Modes of a pattern

A pattern has settings that can be changed inside it, for the rest of the group in which they are.
Three of them bear on what the pattern may contain: whether letter case is ignored, whether
characters or bytes are matched, and whether white space and comments are skipped.
-/

namespace PersonRelations.Log.Pattern

/-- The settings under which a part of a pattern is read. -/
structure Mode where
  /-- Letter case is ignored. -/
  caseless : Bool := false
  /-- Characters are matched, and not bytes. -/
  unicode : Bool := true
  /-- White space and comments are skipped. -/
  verbose : Bool := false
  deriving DecidableEq, Repr

/-- Skips white space and comments, which go from a hash to the end of the line. `inComment` says
that one has begun. -/
def skipComments (inComment : Bool) : List Char → List Char
  | [] => []
  | c :: cs =>
    if inComment then skipComments (c != '\n') cs
    else if Text.isBlank c then skipComments false cs
    else if c == '#' then skipComments true cs
    else c :: cs

namespace Mode

/-- Skips what has no meaning in the mode. -/
def skip (m : Mode) (cs : List Char) : List Char :=
  if m.verbose then skipComments false cs else cs

/-- The character behind the first one, and behind white space and the start of a comment where
these have no meaning. -/
def peek? (m : Mode) (cs : List Char) : Option Char :=
  if m.verbose then
    match cs.tail.dropWhile Text.isBlank with
    | '#' :: rest => (rest.dropWhile Text.isBlank).head?
    | rest => rest.head?
  else cs.tail.head?

/-- The mode with one setting changed. Those that bear on nothing here have no effect. -/
def set (m : Mode) (on : Bool) : Char → Mode
  | 'i' => { m with caseless := on }
  | 'u' => { m with unicode := on }
  | 'x' => { m with verbose := on }
  | _ => m

/-- The mode after a list of changes, in which a dash stands before what is turned off. -/
def change (m : Mode) (letters : List Char) : Mode :=
  let on := letters.takeWhile (· != '-')
  let off := letters.dropWhile (· != '-')
  off.foldl (fun m c ↦ m.set false c) (on.foldl (fun m c ↦ m.set true c) m)

end Mode

/-- Reads changes of mode up to the colon of a group that they hold for, or up to the parenthesis
that ends them; `before` are those already read, in reverse. Says also whether it was the colon.
No letter comes twice, and something follows the dash. -/
def changes? (before : List Char) : List Char → Option (List Char × Bool × List Char)
  | [] => none
  | c :: cs =>
    if c == ':' || c == ')' then
      if before.head? == some '-' then none else some (before.reverse, c == ':', cs)
    else if before.contains c || !"ismUuRx-".toList.contains c then none
    else changes? (c :: before) cs

end PersonRelations.Log.Pattern
