import PersonRelations.Event
import PersonRelations.Log.Filter
import PersonRelations.Text.Quoted

/-!
# Logs

A log shows the events that its filter lets through, each as one line in the chosen form: as text,
with the fields as `key=value` behind the message, or as a JSON object. Time stamps are not part of
a line. The filter is the one of the environment if that is a filter without faults, and else the
one of the settings, whose faulty pieces are left out with a line about each.
-/

namespace PersonRelations

/-! ### Lines -/

namespace Log

/-- A character of a message in a text line. Characters that could steer a terminal are written by
their codes. -/
def messageEscape (c : Char) : List Char :=
  let n := c.toNat
  if n = 0x1B ∨ n = 0x07 ∨ n = 0x08 ∨ n = 0x0C ∨ n = 0x7F then ['\\', 'x'] ++ Text.hexDigits 2 n
  else if 0x80 ≤ n ∧ n ≤ 0x9F then ['\\', 'u', '\x7b'] ++ Text.hexDigits 2 n ++ ['\x7d']
  else [c]

/-- A field's value in a text line. -/
def textValue : FieldValue → String
  | .number n => toString n.toNat
  | .text s => Text.quoted s
  | .texts ss => Text.quotedList ss

/-- The event as a text line. -/
def textLine (e : Event) : String :=
  let message := String.ofList (e.message.toList.flatMap messageEscape)
  e.level.name ++ " " ++ e.target ++ ": " ++
    " ".intercalate (message :: e.fields.map fun (k, v) ↦ k ++ "=" ++ textValue v)

/-- A field's value in a JSON line. A list is a string there. -/
def jsonValue : FieldValue → String
  | .number n => toString n.toNat
  | .text s => Text.jsonString s
  | .texts ss => Text.jsonString (Text.quotedList ss)

/-- Members of a JSON object, whose values are JSON already. -/
def jsonObject (members : List (String × String)) : String :=
  "\x7b" ++ ",".intercalate (members.map fun (k, v) ↦ Text.jsonString k ++ ":" ++ v) ++ "\x7d"

/-- The event as a JSON line. -/
def jsonLine (e : Event) : String :=
  let fields := ("message", Text.jsonString e.message) :: e.fields.map fun (k, v) ↦ (k, jsonValue v)
  jsonObject
    [("level", Text.jsonString e.level.name), ("fields", jsonObject fields),
      ("target", Text.jsonString e.target)]

end Log

/-! ### The log of a run -/

/-- How events are shown. -/
structure Log where
  filter : Log.Filter
  /-- Whether the lines are JSON. -/
  json : Bool
  /-- Lines about the filter, shown before all others. -/
  complaints : List String := []

namespace Log

/-- The log that the settings ask for, unless the environment has a filter of its own. -/
def ofSettings (s : LogSettings) (environmentFilter : Option String) : Log :=
  match environmentFilter.bind Filter.parse? with
  | some filter => ⟨filter, s.json, []⟩
  | none =>
    let (filter, complaints) := Filter.parseLenient s.level
    ⟨filter, s.json, complaints⟩

/-- The event as a line. -/
def line (log : Log) (e : Event) : String :=
  if log.json then jsonLine e else textLine e

/-- The lines that are shown for events. -/
def lines (log : Log) (es : List Event) : List String :=
  (es.filter log.filter.shows).map log.line

end Log

end PersonRelations
