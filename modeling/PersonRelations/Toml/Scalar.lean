import PersonRelations.Toml.Parser

/-!
# The words of TOML

What a document denotes is a tree of tables and values (`Value`). The words that it is written in
are blanks, line ends and comments, strings, keys, and the values that are not made of others:
numbers, booleans and date-times. Integers are those of 64 bits with a sign. A float that is too
large for a double of positive sign is refused.
-/

namespace PersonRelations.Toml

open PersonRelations.Toml.Parser

/-! ### Values -/

/-- A value of a TOML document. Of floats and date-times only the written form is kept. -/
inductive Value where
  | string (s : String)
  | integer (n : Int)
  | float (written : String)
  | boolean (b : Bool)
  | dateTime (written : String)
  | array (elements : List Value)
  | table (members : List (String × Value))

/-! ### Blanks, lines and comments -/

/-- A blank inside a line. -/
def isBlank (c : Char) : Bool :=
  c == ' ' || c == '\t'

/-- A character that may stand in a comment: no control character but the tab. -/
def isCommentChar (c : Char) : Bool :=
  c == '\t' || (' ' ≤ c && c ≤ '~') || '\x80' ≤ c

/-- Blanks, if there are any. -/
def blanks : Parser Unit := do
  let _ ← takeWhile isBlank

/-- A line feed, with or without a carriage return before it. -/
def newline : Parser Unit :=
  text "\n" <|> text "\r\n"

/-- A comment, up to the end of its line. -/
def comment : Parser Unit := do
  char '#'
  let _ ← takeWhile isCommentChar

/-- The end of a line or of the text. -/
def lineEnd : Parser Unit :=
  newline <|> atEnd

/-- What may follow on the line of a pair or a header. -/
def restOfLine : Parser Unit := do
  blanks
  let _ ← optional comment
  lineEnd

/-- What may stand between the elements of an array. -/
def gap : Parser Unit := do
  blanks
  let _ ← many ((newline <|> (comment *> newline)) *> blanks)

/-! ### Strings -/

/-- A character of a literal string. -/
def isLiteralChar (c : Char) : Bool :=
  isCommentChar c && c != '\''

/-- A character of a string with escapes that stands for itself. -/
def isPlainChar (c : Char) : Bool :=
  isCommentChar c && c != '"' && c != '\\'

/-- A hexadecimal digit. -/
def isHexDigit (c : Char) : Bool :=
  c.isDigit || ('a' ≤ c && c ≤ 'f') || ('A' ≤ c && c ≤ 'F')

/-- The value of a digit of any base up to sixteen. -/
def digitValue (c : Char) : Nat :=
  if c.isDigit then c.toNat - '0'.toNat
  else if 'a' ≤ c then c.toNat - 'a'.toNat + 10
  else c.toNat - 'A'.toNat + 10

/-- The number written by the digits. -/
def numberOf (base : Nat) (digits : List Char) : Nat :=
  digits.foldl (fun n c ↦ n * base + digitValue c) 0

/-- A code point of so many hexadecimal digits; it has to be that of a character. -/
def codePoint (digits : Nat) : Parser Char := do
  let n := numberOf 16 (← count isHexDigit digits)
  if n.isValidChar then pure (Char.ofNat n) else failure

/-- What follows a backslash. -/
def escapeTail : Parser Char := do
  let c ← satisfy fun _ ↦ true
  match c with
  | 'b' => pure '\x08'
  | 't' => pure '\t'
  | 'n' => pure '\n'
  | 'f' => pure '\x0c'
  | 'r' => pure '\r'
  | '"' => pure '"'
  | '\\' => pure '\\'
  | 'u' => codePoint 4
  | 'U' => codePoint 8
  | _ => failure

/-- An escape. -/
def escapeSequence : Parser Char :=
  char '\\' *> escapeTail

/-- A string of one line, with escapes. -/
def basicString : Parser String := do
  char '"'
  let cs ← many (satisfy isPlainChar <|> escapeSequence)
  char '"'
  pure (String.ofList cs)

/-- A string of one line, without escapes. -/
def literalString : Parser String := do
  char '\''
  let cs ← takeWhile isLiteralChar
  char '\''
  pure (String.ofList cs)

/-- One or two quotes that do not end a string of several lines: another character follows. -/
def innerQuotes (q : Char) : Parser (List Char) := do
  let qs ← takeWhile1 (· == q)
  if qs.length ≤ 2 then pure qs else failure

/-- The end of a string of several lines, three quotes, and up to two more before it that belong
to the string. -/
def closingQuotes (q : Char) : Parser (List Char) := do
  let qs ← takeWhile1 (· == q)
  if 3 ≤ qs.length ∧ qs.length ≤ 5 then pure (qs.drop 3) else failure

/-- A backslash at the end of a line, which with all blanks and line ends after it stands for
nothing. -/
def lineContinuation : Parser (List Char) := do
  char '\\'
  blanks
  newline
  let _ ← many (newline <|> (satisfy isBlank *> pure ()))
  pure []

/-- A string of several lines, given its quote and what it may hold besides quotes and line
ends. A line end right after the opening does not belong to it. -/
def longString (q : Char) (content : Parser (List Char)) : Parser String := do
  char q
  char q
  char q
  let _ ← optional newline
  let parts ← many (content <|> innerQuotes q <|> (newline *> pure ['\n']))
  let tail ← closingQuotes q
  pure (String.ofList (parts.flatten ++ tail))

/-- A string of several lines, with escapes. -/
def longBasicString : Parser String :=
  longString '"'
    (takeWhile1 isPlainChar <|> lineContinuation <|> (List.singleton <$> escapeSequence))

/-- A string of several lines, without escapes. -/
def longLiteralString : Parser String :=
  longString '\'' (takeWhile1 isLiteralChar)

/-- A string of any kind. -/
def anyString : Parser String :=
  longBasicString <|> basicString <|> longLiteralString <|> literalString

/-! ### Keys -/

/-- A character of a key without quotes. -/
def isBareKeyChar (c : Char) : Bool :=
  c.isAlphanum || c == '-' || c == '_'

/-- One part of a key. -/
def simpleKey : Parser String :=
  basicString <|> literalString <|> (String.ofList <$> takeWhile1 isBareKeyChar)

/-- How deep tables and arrays may be nested; keys have to have fewer parts. -/
def maxDepth : Nat := 80

/-- A key: parts with dots between them. -/
def key : Parser (List String) :=
  guarded (sepBy1 (blanks *> simpleKey <* blanks) (char '.')) fun parts ↦ parts.length < maxDepth

/-! ### Numbers -/

/-- A sign, if there is one: whether it is negative. -/
def sign : Parser Bool :=
  (char '-' *> pure true) <|> (char '+' *> pure false) <|> pure false

/-- Digits after a first one, single underscores between them. -/
def moreDigits (isDigit : Char → Bool) : Parser (List Char) :=
  many (satisfy isDigit <|> (char '_' *> satisfy isDigit))

/-- Digits, single underscores between them. -/
def digitsOf (isDigit : Char → Bool) : Parser (List Char) := do
  let d ← satisfy isDigit
  let ds ← moreDigits isDigit
  pure (d :: ds)

/-- A decimal number without superfluous zeros: its sign and its digits. -/
def decimal : Parser (Bool × List Char) := do
  let negative ← sign
  let d ← satisfy Char.isDigit
  if d == '0' then pure (negative, [d])
  else
    let ds ← moreDigits Char.isDigit
    pure (negative, d :: ds)

/-- A number with a mark for its base before it. -/
def basedNumber (mark : String) (base : Nat) (isDigit : Char → Bool) : Parser Nat := do
  text mark
  let ds ← digitsOf isDigit
  pure (numberOf base ds)

/-- The number with a sign. -/
def signed (negative : Bool) (n : Nat) : Int :=
  if negative then -n else n

/-- An integer that fits into 64 bits. -/
def integer : Parser Int :=
  guarded
    ((Int.ofNat <$> basedNumber "0x" 16 isHexDigit)
      <|> (Int.ofNat <$> basedNumber "0o" 8 fun c ↦ '0' ≤ c && c ≤ '7')
      <|> (Int.ofNat <$> basedNumber "0b" 2 fun c ↦ c == '0' || c == '1')
      <|> (do
        let (negative, ds) ← decimal
        pure (signed negative (numberOf 10 ds))))
    fun n ↦ Int64.minValue.toInt ≤ n && n ≤ Int64.maxValue.toInt

/-- The part of a float behind its point. -/
def fraction : Parser (List Char) :=
  char '.' *> digitsOf Char.isDigit

/-- The exponent of a float. -/
def exponent : Parser Int := do
  let _ ← satisfy fun c ↦ c == 'e' || c == 'E'
  let negative ← sign
  let ds ← digitsOf Char.isDigit
  pure (signed negative (numberOf 10 ds))

/-- The least number that is nearer to 2^1024 than to the largest double, or as near. -/
def doubleBound : Nat := (1 <<< 1024) - (1 <<< 970)

/-- Whether `digits * 10 ^ e` is too large for a double. -/
def exceedsDouble (digits : List Char) (e : Int) : Bool :=
  let significant := digits.dropWhile (· == '0')
  let size := significant.length + e
  if significant.isEmpty || size < 309 then false
  else if 309 < size then true
  else if 0 ≤ e then doubleBound ≤ numberOf 10 significant * Nat.pow 10 e.toNat
  else doubleBound * Nat.pow 10 (-e).toNat ≤ numberOf 10 significant

/-- A float in digits. -/
def digitFloat : Parser Unit := do
  let (negative, whole) ← decimal
  let (part, e) ← (do
      let e ← exponent
      pure ([], e))
    <|> (do
      let part ← fraction
      let e ← exponent <|> pure 0
      pure (part, e))
  if !negative && exceedsDouble (whole ++ part) (e - part.length) then failure else pure ()

/-- A float that is no number, or no finite one. -/
def wordFloat : Parser Unit := do
  let _ ← sign
  text "inf" <|> text "nan"

/-! ### Date-times -/

/-- So many digits, as a number from `least` to `greatest`. -/
def digitsBetween (digits least greatest : Nat) : Parser Nat :=
  guarded (numberOf 10 <$> count Char.isDigit digits) fun n ↦ least ≤ n && n ≤ greatest

/-- The number of days of a month. -/
def daysOf (year month : Nat) : Nat :=
  if month = 2 then
    if year % 4 = 0 ∧ (year % 100 ≠ 0 ∨ year % 400 = 0) then 29 else 28
  else if month = 4 ∨ month = 6 ∨ month = 9 ∨ month = 11 then 30
  else 31

/-- A date. -/
def date : Parser Unit := do
  let year ← digitsBetween 4 0 9999
  char '-'
  let month ← digitsBetween 2 1 12
  char '-'
  let _ ← digitsBetween 2 1 (daysOf year month)

/-- Hours and minutes. -/
def hourMinute : Parser Unit := do
  let _ ← digitsBetween 2 0 23
  char ':'
  let _ ← digitsBetween 2 0 59

/-- A time of day; there may be a leap second. -/
def time : Parser Unit := do
  hourMinute
  char ':'
  let _ ← digitsBetween 2 0 60
  let _ ← optional (char '.' *> takeWhile1 Char.isDigit)

/-- A distance from universal time. -/
def offset : Parser Unit :=
  (satisfy (fun c ↦ c == 'Z' || c == 'z') *> pure ())
    <|> (satisfy (fun c ↦ c == '+' || c == '-') *> hourMinute)

/-- A date, a time or both. -/
def dateTime : Parser Unit :=
  (do
    date
    let _ ← optional do
      let _ ← satisfy fun c ↦ c == 'T' || c == 't' || c == ' '
      time
      optional offset)
  <|> time

/-! ### Scalars -/

/-- The characters that a parser takes. -/
def written (p : Parser Unit) : Parser String :=
  fun s ↦ (p s).map fun (_, rest) ↦ (String.ofList (s.take (s.length - rest.length)), rest)

/-- A boolean. -/
def boolean : Parser Bool :=
  (text "true" *> pure true) <|> (text "false" *> pure false)

/-- A value that is not made of others. -/
def scalar : Parser Value :=
  (Value.string <$> anyString)
    <|> (Value.boolean <$> boolean)
    <|> (Value.dateTime <$> written dateTime)
    <|> (Value.float <$> written (digitFloat <|> wordFloat))
    <|> (Value.integer <$> integer)

end PersonRelations.Toml
