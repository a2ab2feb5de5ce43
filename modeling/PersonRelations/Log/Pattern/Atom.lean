import PersonRelations.Log.Pattern.Mode

/-!
# Escapes in a pattern

What a backslash can introduce: a character, by itself, by a letter or by its number; a class with
a name of one letter; or a place between characters. Back references and classes of Unicode
properties are not taken.
-/

namespace PersonRelations.Log.Pattern

/-- The smallest elements of a pattern. -/
inductive Atom where
  /-- A character. `byte` says that it was given by the number of a byte. -/
  | literal (c : Char) (byte : Bool)
  /-- Digits, white space or word characters, or all but these. -/
  | named (negated : Bool)
  /-- The start or the end of the text. -/
  | place
  /-- The start or the end of a word. -/
  | wordBoundary
  deriving DecidableEq, Repr

/-- Whether the element can be matched in the mode: with Unicode there are neither rules of letter
case nor named classes, and without it nothing that goes beyond ASCII bytes. -/
def Atom.isUsable (m : Mode) : Atom → Bool
  | literal c byte => if m.unicode then !m.caseless else !byte || c.toNat < 0x80
  | named negated => !m.unicode && !negated
  | place | wordBoundary => true

/-- The value of a hexadecimal digit. -/
def hexValue? (c : Char) : Option Nat :=
  if c.isDigit then some (c.toNat - '0'.toNat)
  else if 'a' ≤ c ∧ c ≤ 'f' then some (c.toNat - 'a'.toNat + 10)
  else if 'A' ≤ c ∧ c ≤ 'F' then some (c.toNat - 'A'.toNat + 10)
  else none

/-- Reads a number of so many hexadecimal digits behind `value`. -/
def hexNumber? (m : Mode) : Nat → Nat → List Char → Option (Nat × List Char)
  | 0, value, cs => some (value, cs)
  | n + 1, value, cs =>
    match m.skip cs with
    | [] => none
    | c :: rest => (hexValue? c).bind fun v ↦ hexNumber? m n (16 * value + v) rest

/-- Reads a character given by a number of so many digits. -/
def numbered? (m : Mode) (digits : Nat) (cs : List Char) : Option (Atom × List Char) :=
  (hexNumber? m digits 0 cs).bind fun (n, rest) ↦
    if n.isValidChar then some (.literal (Char.ofNat n) (digits == 2), rest) else none

/-- The control characters that a letter stands for. -/
def controlLetters : List (Char × Nat) :=
  [('a', 7), ('f', 12), ('t', 9), ('n', 10), ('r', 13), ('v', 11)]

/-- The meaning of an escape of one character. Marks of ASCII stand for themselves. -/
def Atom.ofLetter? (c : Char) : Option Atom :=
  if "dsw".toList.contains c then some (.named false)
  else if "DSW".toList.contains c then some (.named true)
  else if "Az".toList.contains c then some .place
  else if "bB<>".toList.contains c then some .wordBoundary
  else if c.isAlphanum then
    (controlLetters.lookup c).map fun n ↦ .literal (Char.ofNat n) false
  else if c.toNat < 0x80 then some (.literal c false)
  else none

/-- Reads what follows a backslash. -/
def Atom.escape? (m : Mode) : List Char → Option (Atom × List Char)
  | [] => none
  | 'x' :: cs => numbered? m 2 cs
  | 'u' :: cs => numbered? m 4 cs
  | 'U' :: cs => numbered? m 8 cs
  | c :: cs => (Atom.ofLetter? c).map fun a ↦ (a, cs)

end PersonRelations.Log.Pattern
