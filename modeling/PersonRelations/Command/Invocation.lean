import PersonRelations.Settings.File
import PersonRelations.Text.Terminal

/-!
# Invocations

What can stand on the command line, and what it comes to: an `Invocation`, which says what to run,
or an `Ending`, which is all that the program then does. `Invocation.settings` lays the four
sources of settings over each other: the defaults, the file, the environment, the command line.
-/

namespace PersonRelations.Command

/-- One word of the command line, in bytes as it was given. -/
abbrev Word := List UInt8

/-- The word as text; what is not UTF-8 in it is replaced. -/
def Word.display (w : Word) : String :=
  Text.Utf8.decodeLossy w

/-- What takes a value. -/
inductive Parameter where
  /-- The dump; the only one that is given by place and has to be. -/
  | input
  /-- The output directory. -/
  | outputDir
  /-- The settings file. -/
  | config
  /-- The summary file. -/
  | summary
  deriving DecidableEq, Repr

namespace Parameter

/-- The parameter as messages name it. -/
def label : Parameter → String
  | input => "<INPUT>"
  | outputDir => "--output-dir <OUTPUT_DIR>"
  | config => "--config <CONFIG>"
  | summary => "--summary <SUMMARY>"

/-- The parameter of an option's name. -/
def ofName? (s : String) : Option Parameter :=
  if s = "output-dir" then some outputDir
  else if s = "config" then some config
  else if s = "summary" then some summary
  else none

end Parameter

/-- What takes no value. -/
inductive Switch where
  /-- A missing output directory is made. -/
  | createDir
  /-- The program only explains itself. -/
  | help
  /-- The program only gives its version. -/
  | version
  deriving DecidableEq, Repr

namespace Switch

/-- The switch as messages name it. -/
def label : Switch → String
  | createDir => "--create-dir"
  | help => "--help"
  | version => "--version"

/-- The switch of an option's name. -/
def ofName? (s : String) : Option Switch :=
  if s = "create-dir" then some createDir
  else if s = "help" then some help
  else if s = "version" then some version
  else none

/-- The switch of a letter. -/
def ofLetter? (c : Char) : Option Switch :=
  if c = 'h' then some help
  else if c = 'V' then some version
  else none

end Switch

/-- Why a command line cannot be understood. -/
inductive UsageError where
  /-- The dump is not named. -/
  | missingInput
  /-- Nothing of this spelling can stand there. -/
  | unexpected (word : String)
  /-- A value is missing or empty. -/
  | valueRequired (p : Parameter)
  /-- A parameter has two values. -/
  | repeated (p : Parameter)
  /-- A switch is given twice. -/
  | repeatedSwitch (s : Switch)
  /-- A switch is given a value. -/
  | unexpectedValue (value : String) (s : Switch)
  deriving DecidableEq, Repr

/-- The error in words. What the command line had is shown without terminal control. -/
def UsageError.message : UsageError → String
  | missingInput => "the following required arguments were not provided:"
  | unexpected w => "unexpected argument '" ++ Text.plain w ++ "' found"
  | valueRequired p => "a value is required for '" ++ p.label ++ "' but none was supplied"
  | repeated p => "the argument '" ++ p.label ++ "' cannot be used multiple times"
  | repeatedSwitch s => "the argument '" ++ s.label ++ "' cannot be used multiple times"
  | unexpectedValue v s =>
    "unexpected value '" ++ Text.plain v ++ "' for '" ++ s.label ++ "' found; no more were expected"

/-- What the program does in place of a run. -/
inductive Ending where
  /-- It explains itself. -/
  | help
  /-- It gives its version. -/
  | version
  /-- It refuses the command line. -/
  | usage (e : UsageError)
  deriving DecidableEq, Repr

/-- What the command line asks for. -/
structure Invocation where
  /-- The dump. -/
  input : Path
  /-- The output directory, in place of the one of the settings. -/
  outputDir? : Option Path := none
  /-- Whether a missing output directory is made, whatever the settings say. -/
  createDir : Bool := false
  /-- The settings file. -/
  config? : Option Path := none
  /-- Where the counters are written. -/
  summary? : Option Path := none
  deriving DecidableEq, Repr

/-- The variables of the environment, in bytes. -/
abbrev Environment := String → Option (List UInt8)

/-- The text of a variable. One that is not UTF-8 counts as not set. -/
def Environment.text (env : Environment) (key : String) : Option String :=
  (env key).bind fun bytes ↦ (Text.Utf8.decode bytes.toByteArray).toOption

namespace Invocation

/-- The settings with those of the command line in place of others. -/
def amend (x : Invocation) (s : Settings) : Settings :=
  { s with output := ⟨x.outputDir?.getD s.output.dir, x.createDir || s.output.createDir⟩ }

/-- The settings of the file, or the defaults if there is none. -/
def fileSettings (x : Invocation) (t : FileTree) : Except SettingsError Settings :=
  match x.config? with
  | some p => Settings.load t p
  | none => .ok {}

/-- The settings of a run. -/
def settings (x : Invocation) (env : Environment) (t : FileTree) : Except SettingsError Settings :=
  do
    let s ← x.fileSettings t
    let s ← s.override env.text
    .ok (x.amend s)

end Invocation

end PersonRelations.Command
