import PersonRelations.Text.Utf8

/-!
# Paths

A path is a string of bytes, as the system takes it; only for display is it read as text.
`Path.names` are the steps it takes through a tree.
-/

namespace PersonRelations

/-- One step of a path: the name of an entry in a directory. -/
abbrev Name := List UInt8

/-- A path as it was given. -/
structure Path where
  bytes : List UInt8
  deriving DecidableEq, Repr, Inhabited

namespace Path

/-- The byte between two names. -/
def separator : UInt8 := 0x2F

/-- The name of a directory in itself. -/
def dot : Name := [0x2E]

/-- The name of a directory's parent in it. -/
def dotDot : Name := [0x2E, 0x2E]

/-- The path spelled by a text. -/
def ofString (s : String) : Path :=
  ⟨s.toUTF8.data.toList⟩

/-- The path as text; what is not UTF-8 in it is replaced. -/
def display (p : Path) : String :=
  Text.Utf8.decodeLossy p.bytes

/-- Whether the path is empty. -/
def isEmpty (p : Path) : Bool :=
  p.bytes.isEmpty

/-- Whether the path starts at the root. -/
def isAbsolute (p : Path) : Bool :=
  p.bytes.head? == some separator

/-- The path of an entry in the directory at `p`. The separator is added unless `p` is empty or
ends in one. -/
def join (p : Path) (name : String) : Path :=
  let tail := (ofString name).bytes
  match p.bytes.getLast? with
  | none => ⟨tail⟩
  | some b => if b == separator then ⟨p.bytes ++ tail⟩ else ⟨p.bytes ++ separator :: tail⟩

/-- The pieces between separators, the empty ones included. -/
def pieces (p : Path) : List Name :=
  p.bytes.splitOn separator

/-- The steps of the path, in order. A separator at the end, which asks for a directory, leaves
an empty step at the end; other empty pieces are dropped. -/
def names (p : Path) : List Name :=
  let steps := p.pieces.filter fun n ↦ !n.isEmpty
  if p.bytes.getLast? == some separator && !steps.isEmpty then steps ++ [[]] else steps

/-- The steps that are significant for taking a path apart: no empty ones, and a dot only at the
start of a relative path. -/
def components (p : Path) : List Name :=
  match p.pieces with
  | [] => []
  | first :: rest =>
    let tail := rest.filter fun n ↦ !n.isEmpty && n != dot
    if first.isEmpty then tail else first :: tail

/-- The path of the given steps, from the root or not. -/
def ofComponents (absolute : Bool) (steps : List Name) : Path :=
  let body := [separator].intercalate steps
  ⟨if absolute then separator :: body else body⟩

/-- The path and the directories it leads through, the nearest first. A relative path ends in the
empty one. -/
def ancestors (p : Path) : List Path :=
  let steps := p.components
  p :: (List.range steps.length).reverse.map fun n ↦ ofComponents p.isAbsolute (steps.take n)

end Path

end PersonRelations
