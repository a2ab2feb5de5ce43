import PersonRelations.Text.Extending
import PersonRelations.Text.Unassigned

/-!
# Quoted texts

A text in double quotes, with escapes for what would end it or would not be seen. There are two
ways of writing it. `quoted` is for a reader: a character stands as it is if it can be seen for
itself (`isPrintable`), and otherwise has a letter or its code point in hexadecimal. `jsonString` is
for a program: only what a JSON string cannot hold is escaped.
-/

namespace PersonRelations.Text

/-! ### Characters that are not shown as they are

A quoted text shows a character as it is only if a reader can see it for itself. That leaves out

* controls, format characters, private use and separators other than the blank (`invisible`);
* the fillers of the Korean script, which are letters without a shape (`fillers`);
* code points without a character;
* what extends the character before it, but for the two halfwidth sound marks, which take a place
  of their own (`soundMarks`). -/

/-- The ranges of controls, format characters, private use and separators beyond ASCII. -/
def invisible : CodePoints :=
  [(0x80, 0xA0), (0xAD, 0xAD), (0x600, 0x605), (0x61C, 0x61C), (0x6DD, 0x6DD), (0x70F, 0x70F),
    (0x890, 0x891), (0x8E2, 0x8E2), (0x1680, 0x1680), (0x180E, 0x180E), (0x2000, 0x200F),
    (0x2028, 0x202F), (0x205F, 0x2064), (0x2066, 0x206F), (0x3000, 0x3000), (0xE000, 0xF8FF),
    (0xFEFF, 0xFEFF), (0xFFF9, 0xFFFB), (0x110BD, 0x110BD), (0x110CD, 0x110CD),
    (0x13430, 0x1343F), (0x1BCA0, 0x1BCA3), (0x1D173, 0x1D17A), (0xE0001, 0xE0001),
    (0xE0020, 0xE007F), (0xF0000, 0xFFFFD), (0x100000, 0x10FFFD)]

/-- The letters without a shape. -/
def fillers : CodePoints :=
  [(0x115F, 0x1160), (0x3164, 0x3164), (0xFFA0, 0xFFA0)]

/-- The halfwidth marks for voiced sounds. -/
def soundMarks : CodePoints :=
  [(0xFF9E, 0xFF9F)]

/-- Whether the character can be shown as it is. Of ASCII only the controls cannot. -/
def isPrintable (c : Char) : Bool :=
  if c.toNat < 0x80 then 0x20 ≤ c.toNat && c.toNat < 0x7F
  else
    !(invisible.contains c || fillers.contains c || isUnassigned c ||
      (isExtending c && !soundMarks.contains c))

/-! ### Double quotes

A quote and a backslash get a backslash, four control characters have a letter, and any other
character that is not printable is written by its code point. A single quote stays. -/

/-- The character inside double quotes. -/
def escape (c : Char) : List Char :=
  if c = '"' then ['\\', '"']
  else if c = '\\' then ['\\', '\\']
  else if c = '\t' then ['\\', 't']
  else if c = '\r' then ['\\', 'r']
  else if c = '\n' then ['\\', 'n']
  else if c = '\x00' then ['\\', '0']
  else if isPrintable c then [c]
  else ['\\', 'u', '\x7b'] ++ Nat.toDigits 16 c.toNat ++ ['\x7d']

/-- The text in double quotes. -/
def quoted (s : String) : String :=
  String.ofList ('"' :: s.toList.flatMap escape ++ ['"'])

/-- The texts in double quotes, as a list in brackets. -/
def quotedList (ss : List String) : String :=
  "[" ++ ", ".intercalate (ss.map quoted) ++ "]"

/-! ### JSON strings

A quote and a backslash get a backslash, five control characters have a letter, the others are
written by their code in four hexadecimal digits, and all else stays. -/

/-- The last `width` hexadecimal digits of a number, in lower case. -/
def hexDigits (width n : Nat) : List Char :=
  (List.range width).reverse.map fun i ↦ Nat.digitChar ((n >>> (4 * i)) % 16)

/-- The character inside a JSON string. -/
def jsonEscape (c : Char) : List Char :=
  if c = '"' then ['\\', '"']
  else if c = '\\' then ['\\', '\\']
  else if c = '\x08' then ['\\', 'b']
  else if c = '\t' then ['\\', 't']
  else if c = '\n' then ['\\', 'n']
  else if c = '\x0c' then ['\\', 'f']
  else if c = '\r' then ['\\', 'r']
  else if c.toNat < 0x20 then ['\\', 'u'] ++ hexDigits 4 c.toNat
  else [c]

/-- The text as a JSON string. -/
def jsonString (s : String) : String :=
  String.ofList ('"' :: s.toList.flatMap jsonEscape ++ ['"'])

end PersonRelations.Text
