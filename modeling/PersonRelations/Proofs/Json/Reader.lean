import PersonRelations.Toml.Scalar

/-!
# Reading JSON

A reader of JSON texts, with the whole grammar: white space between tokens, the three words,
numbers with a fraction and an exponent, strings with all escapes, arrays and objects. It takes no
part in writing a summary; it is what a summary is measured against.

Three decisions are left open by the format and taken here. A number is kept as a whole number and
a power of ten, so no digit is lost. A key that an object has twice is refused. Values may be nested
to a fixed depth.

`Json.unspaced` is the other view of a text: all white space outside its strings removed.
-/

namespace PersonRelations

/-- A JSON value. -/
inductive Json where
  | null
  | boolean (b : Bool)
  /-- The number `mantissa * 10 ^ exponent`. -/
  | number (mantissa exponent : Int)
  | string (s : String)
  | array (elements : List Json)
  | object (members : List (String × Json))

namespace Json

open PersonRelations.Toml.Parser

/-- The value of a member of an object. -/
def member? : Json → String → Option Json
  | object members, k => members.lookup k
  | _, _ => none

/-! ### White space -/

/-- A character that stands for nothing between tokens. -/
def isSpace (c : Char) : Bool :=
  c == ' ' || c == '\t' || c == '\n' || c == '\r'

/-- White space, if there is any. -/
def space : Toml.Parser Unit := do
  let _ ← takeWhile isSpace

/-- A character that is a token, and white space before it. -/
def mark (c : Char) : Toml.Parser Unit :=
  space *> char c

/-! ### Strings -/

/-- A character of a string that stands for itself. -/
def isPlain (c : Char) : Bool :=
  ' ' ≤ c && c != '"' && c != '\\'

/-- Four hexadecimal digits. -/
def codeUnit : Toml.Parser Nat :=
  Toml.numberOf 16 <$> count Toml.isHexDigit 4

/-- A character by its code; one above U+FFFF takes two codes, the second in an escape of its
own. -/
def coded : Toml.Parser Char := do
  let n ← codeUnit
  if n.isValidChar then pure (Char.ofNat n)
  else
    text "\\u"
    let m ← codeUnit
    if n < 0xDC00 ∧ 0xDC00 ≤ m ∧ m < 0xE000 then
      pure (Char.ofNat (0x10000 + (n - 0xD800) * 0x400 + (m - 0xDC00)))
    else failure

/-- What follows a backslash. -/
def escapeTail : Toml.Parser Char := do
  let c ← satisfy fun _ ↦ true
  match c with
  | '"' => pure '"'
  | '\\' => pure '\\'
  | '/' => pure '/'
  | 'b' => pure '\x08'
  | 'f' => pure '\x0c'
  | 'n' => pure '\n'
  | 'r' => pure '\r'
  | 't' => pure '\t'
  | 'u' => coded
  | _ => failure

/-- A string in quotes. -/
def quotedString : Toml.Parser String := do
  char '"'
  let cs ← many (satisfy isPlain <|> (char '\\' *> escapeTail))
  char '"'
  pure (String.ofList cs)

/-! ### Numbers -/

/-- The digits before the point; a zero stands alone. -/
def wholePart : Toml.Parser (List Char) := do
  let d ← satisfy Char.isDigit
  if d = '0' then pure [d]
  else
    let ds ← takeWhile Char.isDigit
    pure (d :: ds)

/-- The digits behind the point, if there are any. -/
def fractionPart : Toml.Parser (List Char) :=
  (char '.' *> takeWhile1 Char.isDigit) <|> pure []

/-- The power of ten, if it is given. -/
def exponentPart : Toml.Parser Int :=
  (do
    let _ ← satisfy fun c ↦ c == 'e' || c == 'E'
    let negative ← Toml.sign
    let ds ← takeWhile1 Char.isDigit
    pure (Toml.signed negative (Toml.numberOf 10 ds)))
  <|> pure 0

/-- A number. -/
def numeral : Toml.Parser Json := do
  let negative ← (char '-' *> pure true) <|> pure false
  let whole ← wholePart
  let part ← fractionPart
  let e ← exponentPart
  pure (.number (Toml.signed negative (Toml.numberOf 10 (whole ++ part))) (e - part.length))

/-! ### Values -/

/-- An array, given how its elements are read. -/
def elementsOf (element : Toml.Parser Json) : Toml.Parser Json := do
  char '['
  let vs ← sepBy element (mark ',')
  mark ']'
  pure (.array vs)

/-- A key with its value. -/
def memberOf (element : Toml.Parser Json) : Toml.Parser (String × Json) := do
  space
  let k ← quotedString
  mark ':'
  let v ← element
  pure (k, v)

/-- An object, given how its values are read. No key may be there twice. -/
def membersOf (element : Toml.Parser Json) : Toml.Parser Json := do
  char '\x7b'
  let ms ← guarded (sepBy (memberOf element) (mark ',')) fun ms ↦ (ms.map Prod.fst).Nodup
  mark '\x7d'
  pure (.object ms)

/-- A value nested no deeper than given, and white space before it. -/
def value : Nat → Toml.Parser Json
  | 0 => failure
  | depth + 1 => space *>
      ((text "null" *> pure .null)
        <|> (text "true" *> pure (.boolean true))
        <|> (text "false" *> pure (.boolean false))
        <|> (Json.string <$> quotedString)
        <|> numeral
        <|> elementsOf (value depth)
        <|> membersOf (value depth))

/-- How deep values may be nested. -/
def maxDepth : Nat := 128

/-- The value that a text spells; `none` if it is not JSON. -/
def read? (s : String) : Option Json :=
  ((value maxDepth <* space <* atEnd) s.toList).map Prod.fst

/-! ### A text without its white space -/

mutual

/-- The characters outside strings that are no white space, and all of each string. -/
def outside : List Char → List Char
  | [] => []
  | c :: cs =>
    if isSpace c then outside cs else c :: if c = '"' then inside cs else outside cs

/-- The same from a point inside a string; a quote behind a backslash does not end it. -/
def inside : List Char → List Char
  | [] => []
  | '\\' :: c :: cs => '\\' :: c :: inside cs
  | c :: cs => c :: if c = '"' then outside cs else inside cs

end

/-- The text with the white space outside its strings removed. -/
def unspaced (s : String) : String :=
  String.ofList (outside s.toList)

end Json

end PersonRelations
