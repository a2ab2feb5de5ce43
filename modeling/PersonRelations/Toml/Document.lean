import PersonRelations.Toml.Scalar

/-!
# TOML documents

A document is a sequence of lines: pairs of a key and a value, and headers that say which table
the pairs after them belong to. Tables come into being in four ways, and what may be added to a
table later depends on how it did:

* a header `[a.b]` opens the table `b` in `a`, once; tables that it leads through are made if they
  are missing and can still be opened by a header of their own;
* a header `[[a.b]]` adds a table to the array `b` in `a`;
* a key with dots makes the tables that it leads through, which only other keys with dots can
  add to;
* a table written as a value is closed.

A value nested too deep, a key given twice and a table opened in two ways are errors, like any
other breach of the grammar; which one it was is not kept.
-/

namespace PersonRelations.Toml

open PersonRelations.Toml.Parser

mutual

/-- What a key of a table under construction stands for. -/
inductive Item where
  | value (v : Value)
  | table (t : Node)
  /-- The tables of an array that headers add to. -/
  | tables (ts : List Node)

/-- A table under construction. -/
inductive Node where
  /-- `implicit` tables were only led through; `dotted` ones were made by a key with dots. -/
  | mk (implicit dotted : Bool) (members : List (String × Item))

end

mutual

/-- The value of an item. -/
def Item.toValue : Item → Value
  | .value v => v
  | .table t => t.toValue
  | .tables ts => .array (nodeValues ts)

/-- The table as a value. -/
def Node.toValue : Node → Value
  | .mk _ _ members => .table (memberValues members)

/-- The tables as values. -/
def nodeValues : List Node → List Value
  | [] => []
  | t :: ts => t.toValue :: nodeValues ts

/-- The members of a table as values. -/
def memberValues : List (String × Item) → List (String × Value)
  | [] => []
  | (k, i) :: rest => (k, i.toValue) :: memberValues rest

end

namespace Node

/-- A table that a header opens or that stands as a value. -/
def empty : Node := mk false false []

/-- A table that a path leads through. -/
def passage (dotted : Bool) : Node := mk true dotted []

/-- Whether the table was only led through. -/
def implicit : Node → Bool
  | mk i _ _ => i

/-- Whether the table was made by a key with dots. -/
def dotted : Node → Bool
  | mk _ d _ => d

/-- What a key stands for. -/
def get? : Node → String → Option Item
  | mk _ _ members, k => members.lookup k

/-- The table with what a key stands for replaced, or added at the end. -/
def set : Node → String → Item → Node
  | mk i d members, k, item =>
    if (members.lookup k).isSome then
      mk i d (members.map fun m ↦ if m.1 == k then (k, item) else m)
    else mk i d (members ++ [(k, item)])

/-- Changes the table that a path leads to. Missing tables on the way are made; a value on the
way is an error, and of an array of tables the last is meant. A key with dots (`dotted`) may lead
only through tables that were only led through. -/
def update (dotted : Bool) (change : Node → Option Node) : List String → Node → Option Node
  | [], t => change t
  | k :: path, t =>
    match t.get? k with
    | none => do
      let child ← update dotted change path (passage dotted)
      some (t.set k (.table child))
    | some (.value _) => none
    | some (.table child) =>
      if dotted && !child.implicit then none
      else do
        let child ← update dotted change path child
        some (t.set k (.table child))
    | some (.tables ts) =>
      match ts.getLast? with
      | none => none
      | some child => do
        let child ← update dotted change path child
        some (t.set k (.tables (ts.dropLast ++ [child])))

/-- Adds a pair; the key may have dots. -/
def addPair (path : List String) (k : String) (v : Value) (t : Node) : Option Node :=
  t.update true (fun target ↦
    if target.dotted == path.isEmpty || (target.get? k).isSome then none
    else some (target.set k (.value v))) path

/-- Opens the table of a header. -/
def openTable (path : List String) (k : String) (t : Node) : Option Node :=
  t.update false (fun parent ↦
    match parent.get? k with
    | none => some (parent.set k (.table empty))
    | some (.table (mk true false members)) =>
      some (parent.set k (.table (mk false false members)))
    | some _ => none) path

/-- Adds the table of a header to an array of tables. -/
def openElement (path : List String) (k : String) (t : Node) : Option Node :=
  t.update false (fun parent ↦
    match parent.get? k with
    | none => some (parent.set k (.tables [empty]))
    | some (.tables ts) => some (parent.set k (.tables (ts ++ [empty])))
    | some _ => none) path

end Node

/-! ### Values made of others -/

/-- A key, taken apart into the path and the last part. -/
def keyPath : Parser (List String × String) := do
  let parts ← key
  match parts.getLast? with
  | some k => pure (parts.dropLast, k)
  | none => failure

/-- An array; a comma may follow its last element. -/
def array (element : Parser Value) : Parser Value := do
  char '['
  gap
  let vs ← sepBy (element <* gap) (char ',' *> gap)
  if !vs.isEmpty then
    let _ ← optional (char ',' *> gap)
  char ']'
  pure (.array vs)

/-- A pair in a table that stands as a value. -/
def inlinePair (element : Parser Value) : Parser (List String × String × Value) := do
  let (path, k) ← keyPath
  char '='
  blanks
  let v ← element
  blanks
  pure (path, k, v)

/-- A table that stands as a value, on one line. -/
def inlineTable (element : Parser Value) : Parser Value := do
  char '\x7b'
  let pairs ← sepBy (inlinePair element) (char ',')
  blanks
  char '\x7d'
  match pairs.foldlM (fun t (path, k, v) ↦ t.addPair path k v) Node.empty with
  | some t => pure t.toValue
  | none => failure

/-- A value in which arrays and tables are nested no deeper than given. -/
def value : Nat → Parser Value
  | 0 => scalar
  | depth + 1 => scalar <|> array (value depth) <|> inlineTable (value depth)

/-! ### Lines -/

/-- A line of a document. -/
inductive Line where
  /-- Nothing but blanks or a comment. -/
  | blank
  /-- A header that opens a table. -/
  | header (path : List String) (k : String)
  /-- A header that adds to an array of tables. -/
  | elementHeader (path : List String) (k : String)
  /-- A key and its value. -/
  | pair (path : List String) (k : String) (v : Value)

/-- A line with its end. -/
def line : Parser Line :=
  (comment *> lineEnd *> pure .blank)
    <|> (newline *> pure .blank)
    <|> (do
      text "[["
      let (path, k) ← keyPath
      text "]]"
      restOfLine
      pure (.elementHeader path k))
    <|> (do
      char '['
      let (path, k) ← keyPath
      char ']'
      restOfLine
      pure (.header path k))
    <|> (do
      let (path, k) ← keyPath
      char '='
      blanks
      let v ← value (maxDepth - 1)
      restOfLine
      pure (.pair path k v))

/-- All lines of a document. A byte order mark before them is skipped. -/
def lines : Parser (List Line) := do
  let _ ← optional (char '\uFEFF')
  blanks
  let ls ← many (line <* blanks)
  atEnd
  pure ls

/-- A document under construction: its table, and the path of the table that pairs go to. -/
structure Draft where
  root : Node := .empty
  current : List String := []

/-- The document with one more line. -/
def Draft.add (d : Draft) : Line → Option Draft
  | .blank => some d
  | .header path k => do
    let root ← d.root.openTable path k
    some ⟨root, path ++ [k]⟩
  | .elementHeader path k => do
    let root ← d.root.openElement path k
    some ⟨root, path ++ [k]⟩
  | .pair path k v => do
    let root ← d.root.update false (fun t ↦ t.addPair path k v) d.current
    some { d with root := root }

/-- The members of the table that a text denotes; `none` if it is not TOML. -/
def parse? (text : String) : Option (List (String × Value)) := do
  let (ls, _) ← lines text.toList
  let d ← ls.foldlM Draft.add {}
  match d.root with
  | .mk _ _ members => some (memberValues members)

end PersonRelations.Toml
