import PersonRelations.Files.Operations
import PersonRelations.Settings
import PersonRelations.Toml.Document

/-!
# Settings files

A settings file is a TOML document with a section for each group of settings. A key that is there
has to have the type of its setting, one that is missing leaves the default, and keys that are not
settings make no difference.

A section is usually a table. It can also be an array, whose elements are then the settings of the
section in order, and a date-time counts as a table with no known key.
-/

namespace PersonRelations

namespace Toml.Value

/-- The settings of a section, by position or by name; `none` if the value cannot be a
section. -/
def section? : Value → Option (Nat → String → Option Value)
  | table members => some fun _ k ↦ members.lookup k
  | array elements => some fun i _ ↦ elements[i]?
  | dateTime _ => some fun _ _ ↦ none
  | _ => none

/-- The text of a string. -/
def string? : Value → Option String
  | string s => some s
  | _ => none

/-- The truth value of a boolean. -/
def boolean? : Value → Option Bool
  | boolean b => some b
  | _ => none

/-- The count that an integer is, if it is not negative. -/
def count? : Value → Option Count
  | integer n => if 0 ≤ n ∧ n.toNat < UInt64.size then some (UInt64.ofNat n.toNat) else none
  | _ => none

/-- The texts of an array of strings. -/
def strings? : Value → Option (List String)
  | array elements => elements.mapM string?
  | _ => none

end Toml.Value

namespace Settings

/-- A setting: its value if it is given, which has to have its type, and else the default. -/
def setting {α : Type} (given : Option Toml.Value) (read : Toml.Value → Option α) (default : α) :
    Option α :=
  match given with
  | none => some default
  | some v => read v

/-- A section of settings: read from what is given, which has to be a section, and else from
nothing. -/
def sectionOf {α : Type} (given : Option Toml.Value)
    (read : (Nat → String → Option Toml.Value) → Option α) : Option α :=
  match given with
  | none => read fun _ _ ↦ none
  | some v => v.section? >>= read

/-- The settings of the output. -/
def readOutput (get : Nat → String → Option Toml.Value) : Option OutputSettings := do
  let unset : OutputSettings := {}
  let dir ← setting (get 0 "dir") (fun v ↦ v.string?.map Path.ofString) unset.dir
  let createDir ← setting (get 1 "create_dir") Toml.Value.boolean? unset.createDir
  some ⟨dir, createDir⟩

/-- The settings of the parser. -/
def readParser (get : Nat → String → Option Toml.Value) : Option StatementParser := do
  let unset : StatementParser := default
  let prefixes ← setting (get 0 "strip_prefixes") Toml.Value.strings? unset.prefixes
  some ⟨prefixes⟩

/-- The progress interval. -/
def readInterval (get : Nat → String → Option Toml.Value) : Option Count :=
  setting (get 0 "progress_interval") Toml.Value.count?
    ({} : Settings).progressInterval

/-- The settings of the log. -/
def readLog (get : Nat → String → Option Toml.Value) : Option LogSettings := do
  let unset : LogSettings := {}
  let level ← setting (get 0 "level") Toml.Value.string? unset.level
  let json ← setting (get 1 "json_format") Toml.Value.boolean? unset.json
  some ⟨level, json⟩

/-- The settings that a document gives; `none` if one has the wrong type. -/
def ofDocument? (members : List (String × Toml.Value)) : Option Settings := do
  let output ← sectionOf (members.lookup "output") readOutput
  let parser ← sectionOf (members.lookup "parser") readParser
  let interval ← sectionOf (members.lookup "pipeline") readInterval
  let log ← sectionOf (members.lookup "logging") readLog
  some ⟨output, parser, interval, log⟩

/-- The settings that the text of a file gives. -/
def ofText? (text : String) : Option Settings :=
  Toml.parse? text >>= ofDocument?

/-- Reads a settings file. -/
def load (t : FileTree) (p : Path) : Except SettingsError Settings :=
  match t.openRead p >>= Entry.read with
  | .error e => .error (.unreadable p (.file e))
  | .ok content =>
    match Text.Utf8.decode content with
    | .error _ => .error (.unreadable p .notText)
    | .ok text =>
      match ofText? text with
      | some s => .ok s
      | none => .error (.malformed p)

end Settings

end PersonRelations
