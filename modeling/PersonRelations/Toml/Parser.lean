/-!
# Parsers on characters

A parser takes characters off the front of a text and gives a value, or fails and takes nothing.
Repetition is bounded by the length of the text, which is no restriction for a parser that takes
at least one character each time.
-/

namespace PersonRelations.Toml

/-- A parser of a text. -/
abbrev Parser (α : Type) := StateT (List Char) Option α

namespace Parser

variable {α β : Type}

/-- One character with the property. -/
def satisfy (p : Char → Bool) : Parser Char
  | c :: s => if p c then some (c, s) else none
  | [] => none

/-- The given character. -/
def char (c : Char) : Parser Unit := do
  let _ ← satisfy (· == c)

/-- The characters of the given text, in order. -/
def text (w : String) : Parser Unit :=
  fun s ↦ if w.toList.isPrefixOf s then some ((), s.drop w.toList.length) else none

/-- The longest run of characters with the property. -/
def takeWhile (p : Char → Bool) : Parser (List Char) :=
  fun s ↦ some (s.takeWhile p, s.dropWhile p)

/-- The longest run of characters with the property, which may not be empty. -/
def takeWhile1 (p : Char → Bool) : Parser (List Char) := do
  let c ← satisfy p
  let cs ← takeWhile p
  pure (c :: cs)

/-- As many characters with the property as asked for. -/
def count (p : Char → Bool) : Nat → Parser (List Char)
  | 0 => pure []
  | n + 1 => do
    let c ← satisfy p
    let cs ← count p n
    pure (c :: cs)

/-- The end of the text. -/
def atEnd : Parser Unit :=
  fun s ↦ if s.isEmpty then some ((), s) else none

/-- Repeats a parser at most `n` times; `before` are the values so far, in reverse. -/
def repeatFrom (p : Parser α) (before : List α) : Nat → Parser (List α)
  | 0, s => some (before.reverse, s)
  | n + 1, s =>
    match p s with
    | none => some (before.reverse, s)
    | some (a, rest) => repeatFrom p (a :: before) n rest

/-- Repeats a parser until it fails. -/
def many (p : Parser α) : Parser (List α) :=
  fun s ↦ repeatFrom p [] s.length s

/-- One or more values with a separator between them. -/
def sepBy1 (p : Parser α) (sep : Parser β) : Parser (List α) := do
  let a ← p
  let as ← many (sep *> p)
  pure (a :: as)

/-- Values with a separator between them. -/
def sepBy (p : Parser α) (sep : Parser β) : Parser (List α) :=
  sepBy1 p sep <|> pure []

/-- A value that satisfies a condition. -/
def guarded (p : Parser α) (ok : α → Bool) : Parser α := do
  let a ← p
  if ok a then pure a else failure

end Parser

end PersonRelations.Toml
