/-!
# Text without terminal control

A text can carry commands for a terminal: an escape character and what it introduces. `plain` gives
what is left of a text without them and without other control characters; white space stays.

`Terminal` says where in a command the text is. A command that is not finished takes the rest of the
text with it, with one exception: a tab or a line break that comes inside of some commands is shown,
and so is what follows it, until a control character comes. Only then does the command go on.
-/

namespace PersonRelations.Text

/-- Where in a command a text is. -/
inductive Terminal where
  /-- In none. -/
  | ground
  /-- Behind the escape character. -/
  | escape
  /-- In a command of a few characters, before the last. -/
  | escapeMiddle
  /-- In a command that begins with a bracket and ends with a letter. -/
  | control
  /-- At the start of a command to the device, before its parameters. -/
  | deviceStart
  /-- In the parameters of a command to the device. -/
  | deviceParameters
  /-- Behind the parameters of a command to the device. -/
  | deviceMiddle
  /-- In a string that no bell ends. -/
  | string
  /-- In a string that a bell ends. -/
  | title
  deriving DecidableEq, Repr

namespace Terminal

/-- The tab, the line feed, the form feed and the carriage return. -/
def isLayout (c : Char) : Bool :=
  c == '\t' || c == '\n' || c == '\x0c' || c == '\r'

/-- Whether the character is shown outside of commands. -/
def isShown (c : Char) : Bool :=
  (0x20 ≤ c.toNat && c.toNat != 0x7F) || isLayout c

/-- Whether the character is shown where the text is. -/
def shows : Terminal → Char → Bool
  | ground, c => isShown c
  | escape, c | escapeMiddle, c | control, c => isLayout c
  | _, _ => false

/-- Whether the code point of the character is in the range. -/
def within (first last : Nat) (c : Char) : Bool :=
  first ≤ c.toNat && c.toNat ≤ last

/-- Whether the character ends a string: it does if one of its bytes in UTF-8 is the terminator. -/
def endsString (c : Char) : Bool :=
  (String.utf8EncodeChar c).contains 0x9C

/-- Where the escape character with this one behind it leads. -/
def afterEscape (c : Char) : Terminal :=
  if within 0x20 0x2F c then escapeMiddle
  else if c = '[' then control
  else if c = ']' then title
  else if c = 'P' then deviceStart
  else if c = 'X' ∨ c = '^' ∨ c = '_' then string
  else if within 0x30 0x7E c then ground
  else escape

/-- Where the text is behind a character inside of a command, if that is none that works
everywhere. -/
def afterOther : Terminal → Char → Terminal
  | ground, _ => ground
  | escape, c => afterEscape c
  | escapeMiddle, c => if within 0x30 0x7E c then ground else escapeMiddle
  | control, c => if within 0x40 0x7E c then ground else control
  | deviceStart, c =>
    if within 0x20 0x2F c then deviceMiddle
    else if within 0x30 0x3F c then deviceParameters
    else if within 0x40 0x7E c then string
    else deviceStart
  | deviceParameters, c =>
    if within 0x20 0x2F c then deviceMiddle
    else if within 0x3C 0x7E c then string
    else deviceParameters
  | deviceMiddle, c => if within 0x30 0x7E c then string else deviceMiddle
  | string, c => if endsString c then ground else string
  | title, c => if c = '\x07' then ground else title

/-- Where the text is behind a character. The escape character begins a command everywhere, and two
control characters end one. -/
def after (t : Terminal) (c : Char) : Terminal :=
  if c = '\x1b' then escape
  else if c = '\x18' ∨ c = '\x1a' then ground
  else t.afterOther c

/-- What is left of a text that begins in a command; `showing` says that text is shown although the
command has not ended. Only a character beyond ASCII ends the command there. -/
def rest (t : Terminal) (showing : Bool) : List Char → List Char
  | [] => []
  | c :: cs =>
    if showing && isShown c then
      c :: (if c.toNat < 0x80 then t else ground).rest true cs
    else if t.shows c then c :: (t.after c).rest true cs
    else (t.after c).rest false cs

end Terminal

/-- The text without terminal control. -/
def plain (s : String) : String :=
  String.ofList (Terminal.ground.rest false s.toList)

end PersonRelations.Text
