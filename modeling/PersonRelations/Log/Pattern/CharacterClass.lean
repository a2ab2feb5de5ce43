import PersonRelations.Log.Pattern.Atom

/-!
# Character classes in a pattern

A class in brackets is a union of characters, ranges, named classes and other classes in brackets,
or such unions with operations between them. `classHeight?` reads one and gives its height: one
more than that of what it contains, where a union of several parts and an operation count as a
level too.
-/

namespace PersonRelations.Log.Pattern

/-- The height of parts taken together: alone a part keeps its height. -/
def jointHeight : List Nat → Nat
  | [] => 0
  | [h] => h
  | hs => 1 + hs.foldl max 0

/-- A class whose closing bracket has not come. -/
structure OpenClass where
  /-- The heights of the parts of the union under way. -/
  parts : List Nat := []
  /-- The height of what stands before the last operation. -/
  before? : Option Nat := none

namespace OpenClass

/-- The class with one more part. -/
def push (k : OpenClass) (height : Nat) : OpenClass :=
  { k with parts := height :: k.parts }

/-- The height of what the class contains so far. -/
def height (k : OpenClass) : Nat :=
  match k.before? with
  | none => jointHeight k.parts
  | some h => 1 + max h (jointHeight k.parts)

end OpenClass

/-- The names of the classes that stand between colons. -/
def asciiClasses : List String :=
  ["alnum", "alpha", "ascii", "blank", "cntrl", "digit", "graph", "lower", "print", "punct",
    "space", "upper", "word", "xdigit"]

/-- Reads a class between colons, behind its opening bracket. Says also whether it is negated. -/
def asciiClass? : List Char → Option (Bool × List Char)
  | ':' :: cs =>
    let negated := cs.head? == some '^'
    let named := if negated then cs.tail else cs
    match named.dropWhile (· != ':') with
    | ':' :: ']' :: rest =>
      if asciiClasses.contains (String.ofList (named.takeWhile (· != ':'))) then
        some (negated, rest)
      else none
    | _ => none
  | _ => none

/-- Reads dashes, which at the start of a class are characters; gives their number. -/
def leadingDashes (m : Mode) : Nat → List Char → Nat × List Char
  | 0, cs => (0, cs)
  | n + 1, cs =>
    match cs with
    | '-' :: rest =>
      let (count, rest) := leadingDashes m n (m.skip rest)
      (count + 1, rest)
    | cs => (0, cs)

/-- Reads the start of a class, behind its opening bracket. A negated class of bytes goes beyond
ASCII and is refused. A closing bracket at the start is a character. -/
def openClass? (m : Mode) (cs : List Char) : Option (OpenClass × List Char) :=
  let inner := m.skip cs
  let negated := inner.head? == some '^'
  let inner := if negated then m.skip inner.tail else inner
  let (dashes, inner) := leadingDashes m inner.length inner
  if negated && !m.unicode then none
  else
    match dashes, inner with
    | 0, ']' :: rest => some (⟨[0], none⟩, rest)
    | n, rest => some (⟨List.replicate n 0, none⟩, rest)

/-- Reads an element of a class. -/
def classAtom? (m : Mode) : List Char → Option (Atom × List Char)
  | [] => none
  | '\\' :: cs => Atom.escape? m cs
  | c :: cs => some (.literal c false, cs)

/-- Whether the element can be part of a class. -/
def Atom.isMember (m : Mode) : Atom → Bool
  | literal c _ => m.unicode || c.toNat < 0x80
  | named negated => !m.unicode && !negated
  | place | wordBoundary => false

/-- Whether the elements are the ends of a range. -/
def isRange (m : Mode) : Atom → Atom → Bool
  | .literal a x, .literal b y =>
    (Atom.literal a x).isMember m && (Atom.literal b y).isMember m && a ≤ b
  | _, _ => false

/-- Reads an element of a class, or a range if a dash follows that is not at the end of the class
and not part of an operation. -/
def classItem? (m : Mode) (cs : List Char) : Option (List Char) :=
  (classAtom? m cs).bind fun (a, rest) ↦
    let rest := m.skip rest
    if rest.head? == some '-' && m.peek? rest != some ']' && m.peek? rest != some '-' then
      (classAtom? m (m.skip rest.tail)).bind fun (b, rest) ↦
        if isRange m a b then some rest else none
    else if a.isMember m then some rest
    else none

/-- Reads on in the classes that are open, the innermost first, and gives the height of the
outermost; in at most so many steps. -/
def classFrom? (m : Mode) : Nat → OpenClass → List OpenClass → List Char →
    Option (Nat × List Char)
  | 0, _, _, _ => none
  | n + 1, k, outer, cs =>
    match m.skip cs with
    | [] => none
    | '[' :: rest =>
      match asciiClass? rest with
      | some (negated, behind) =>
        if negated && !m.unicode then none else classFrom? m n (k.push 0) outer behind
      | none =>
        (openClass? m rest).bind fun (inner, behind) ↦ classFrom? m n inner (k :: outer) behind
    | ']' :: rest =>
      match outer with
      | [] => some (k.height + 1, rest)
      | next :: outer => classFrom? m n (next.push (k.height + 1)) outer rest
    | '&' :: '&' :: rest => classFrom? m n ⟨[], some k.height⟩ outer rest
    | '-' :: '-' :: rest => classFrom? m n ⟨[], some k.height⟩ outer rest
    | '~' :: '~' :: rest => classFrom? m n ⟨[], some k.height⟩ outer rest
    | cs => (classItem? m cs).bind fun rest ↦ classFrom? m n k outer rest

/-- Reads a class behind its opening bracket and gives its height. With Unicode there are no rules
of letter case. -/
def classHeight? (m : Mode) (cs : List Char) : Option (Nat × List Char) :=
  if m.unicode && m.caseless then none
  else (openClass? m cs).bind fun (k, rest) ↦ classFrom? m (cs.length + 1) k [] rest

end PersonRelations.Log.Pattern
