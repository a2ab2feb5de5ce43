import PersonRelations.Error
import PersonRelations.Statement
import PersonRelations.Stats

/-!
# Settings

What a run can be told: where its output goes, which prefixes are deleted, how often progress is
reported and how the log looks. Settings start from the defaults, are replaced by those of a file,
then by variables of the environment (`Settings.override`) and last by the command line.
-/

namespace PersonRelations

/-- Where the output goes. -/
structure OutputSettings where
  /-- The directory of the relation files. -/
  dir : Path := .ofString "people"
  /-- Whether a missing directory is made. -/
  createDir : Bool := false
  deriving DecidableEq, Repr

/-- How the log looks. -/
structure LogSettings where
  /-- Which events are shown. -/
  level : String := "info"
  /-- Whether events are shown as JSON. -/
  json : Bool := false
  deriving DecidableEq, Repr

/-- All settings of a run. -/
structure Settings where
  output : OutputSettings := {}
  parser : StatementParser := default
  /-- Progress is reported at every multiple of this number of lines; 0 reports none. -/
  progressInterval : Count := 10000000
  log : LogSettings := {}
  deriving DecidableEq, Repr

instance : Inhabited Settings := ⟨{}⟩

/-- Why there are no settings. -/
inductive SettingsError where
  /-- The file cannot be read. -/
  | unreadable (path : Path) (cause : Fault)
  /-- The file is not TOML, or a setting in it has the wrong type. -/
  | malformed (path : Path)
  /-- A variable of the environment has a value that means nothing. -/
  | invalidValue (key value : String)
  deriving DecidableEq, Repr

namespace SettingsError

/-- The error in words. -/
def message : SettingsError → String
  | unreadable p c => "Failed to read config file " ++ p.display ++ ": " ++ c.message
  | malformed p => "Failed to parse config file " ++ p.display
  | invalidValue k v => "Invalid value for " ++ k ++ ": " ++ v

/-- The fault behind the error, if it has one. -/
def cause? : SettingsError → Option Fault
  | unreadable _ c => some c
  | malformed _ | invalidValue _ _ => none

end SettingsError

/-- The count that a text spells: decimal digits, with a plus sign or without, of a value below
2^64. -/
def Count.ofString? (s : String) : Option Count :=
  let digits := match s.toList with
    | '+' :: ds => ds
    | ds => ds
  if digits.isEmpty || !digits.all Char.isDigit then none
  else
    let n := digits.foldl (fun n c ↦ n * 10 + (c.toNat - '0'.toNat)) 0
    if n < UInt64.size then some (UInt64.ofNat n) else none

/-- Whether a log format asks for JSON, if it is one. Letter case makes no difference; no
character outside ASCII has a lower-case form spelled with the letters of these words. -/
def logFormat? (s : String) : Option Bool :=
  let word := String.ofList (s.toList.map Char.toLower)
  if word = "json" then some true
  else if word = "text" ∨ word = "pretty" then some false
  else none

namespace Settings

/-- Replaces a setting by the value of a variable, if it is set. -/
def overrideWith {α : Type} (lookup : String → Option String) (key : String)
    (read : String → Option α) (apply : Settings → α → Settings) (s : Settings) :
    Except SettingsError Settings :=
  match lookup key with
  | none => .ok s
  | some text =>
    match read text with
    | some a => .ok (apply s a)
    | none => .error (.invalidValue key text)

/-- Replaces settings by the values of variables. The first one that means nothing is the
error. -/
def override (lookup : String → Option String) (s : Settings) : Except SettingsError Settings := do
  let s ← s.overrideWith lookup "WDP_OUTPUT_DIR" (some ∘ Path.ofString)
    fun s dir ↦ { s with output.dir := dir }
  let s ← s.overrideWith lookup "WDP_PROGRESS_INTERVAL" Count.ofString?
    fun s n ↦ { s with progressInterval := n }
  let s ← s.overrideWith lookup "LOG_LEVEL" some
    fun s level ↦ { s with log.level := level }
  s.overrideWith lookup "LOG_FORMAT" logFormat?
    fun s json ↦ { s with log.json := json }

end Settings

end PersonRelations
