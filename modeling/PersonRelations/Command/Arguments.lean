import PersonRelations.Command.Invocation

/-!
# Reading the command line

The words are read from left to right. A value that was read is only *pending*: it is taken over
when the next option or operand comes, or at the end, and it is then that a missing, empty or second
value is found. So of two faults the one that is recognised first is reported: a word that can stand
nowhere is refused before the value pending then is looked at.

A word that begins with a dash and is longer is never a value. The word of two dashes makes
operands of all that follow.
-/

namespace PersonRelations.Command

/-- A command line read in part. -/
structure Reading where
  input? : Option Path := none
  outputDir? : Option Path := none
  config? : Option Path := none
  summary? : Option Path := none
  createDir : Bool := false
  /-- The parameter last named, with its value if that has been read. -/
  pending : Option (Parameter × Option Word) := none
  deriving DecidableEq, Repr

namespace Reading

/-- The value taken over for a parameter. -/
def get? (r : Reading) : Parameter → Option Path
  | .input => r.input?
  | .outputDir => r.outputDir?
  | .config => r.config?
  | .summary => r.summary?

/-- Takes a value over. -/
def set (r : Reading) (p : Parameter) (v : Path) : Reading :=
  match p with
  | .input => { r with input? := some v }
  | .outputDir => { r with outputDir? := some v }
  | .config => { r with config? := some v }
  | .summary => { r with summary? := some v }

/-- Refuses the command line. -/
def refuse {α : Type} (e : UsageError) : Except Ending α :=
  .error (.usage e)

/-- Gives a parameter its value, which has to be its first and not empty. -/
def assign (r : Reading) (p : Parameter) (value : Word) : Except Ending Reading :=
  if (r.get? p).isSome then refuse (.repeated p)
  else if value.isEmpty then refuse (.valueRequired p)
  else .ok (r.set p ⟨value⟩)

/-- Takes the pending value over. -/
def settle (r : Reading) : Except Ending Reading :=
  match r.pending with
  | none => .ok r
  | some (p, none) => refuse (.valueRequired p)
  | some (p, some value) => { r with pending := none }.assign p value

/-- Whether the dump has been named. -/
def hasInput (r : Reading) : Bool :=
  r.input?.isSome || r.pending.any fun x ↦ x.1 = .input

/-- Reads an operand, which names the dump. -/
def operand (r : Reading) (w : Word) : Except Ending Reading :=
  if r.hasInput then refuse (.unexpected w.display)
  else r.settle.map fun r ↦ { r with pending := some (.input, some w) }

/-- Reads a switch. -/
def switch (r : Reading) (s : Switch) : Except Ending Reading := do
  let r ← r.settle
  match s with
  | .help => .error .help
  | .version => .error .version
  | .createDir => if r.createDir then refuse (.repeatedSwitch s) else .ok { r with createDir := true }

/-- Reads a parameter's option, with the value that is attached to it or without. -/
def option (r : Reading) (p : Parameter) (value : Option Word) : Except Ending Reading := do
  let r ← r.settle
  match value with
  | some v => r.assign p v
  | none => .ok { r with pending := some (p, none) }

/-- Reads an option by its name, which may have a value attached to it. -/
def named (r : Reading) (name : Word) (value : Option Word) : Except Ending Reading :=
  match Parameter.ofName? name.display, Switch.ofName? name.display, value with
  | some p, _, _ => r.option p value
  | none, some s, none => r.switch s
  | none, some s, some v => refuse (.unexpectedValue v.display s)
  | none, none, _ => refuse (.unexpected ("--" ++ name.display))

/-- Reads a group of letters. Each letter that is a switch ends the reading, so only the first
matters. -/
def letters (r : Reading) (w : Word) : Except Ending Reading :=
  match w.display.toList with
  | [] => .ok r
  | c :: _ =>
    match Switch.ofLetter? c with
    | some s => r.switch s
    | none =>
      let faulty := (Text.Utf8.fault? w).any fun f ↦ f.index = 0
      refuse (.unexpected ("-" ++ if faulty then w.display else c.toString))

/-- Reads a value of the option before it, or else an operand. -/
def value (r : Reading) (w : Word) : Except Ending Reading :=
  match r.pending with
  | some (p, none) => .ok { r with pending := some (p, some w) }
  | _ => r.operand w

/-- The byte that options begin with. -/
def dash : UInt8 := 0x2D

/-- The byte between an option and its value. -/
def equals : UInt8 := 0x3D

/-- Reads a word that is not the word of two dashes. -/
def word (r : Reading) (w : Word) : Except Ending Reading :=
  match w with
  | a :: b :: rest =>
    if a = dash ∧ b = dash then
      r.named (rest.takeWhile (· != equals)) (rest.dropWhile (· != equals)).tail?
    else if a = dash then r.letters (b :: rest)
    else r.value w
  | _ => r.value w

/-- Reads words all of which are operands. -/
def operands (r : Reading) : List Word → Except Ending Reading
  | [] => r.settle
  | w :: ws =>
    match r.operand w with
    | .error e => .error e
    | .ok r => r.operands ws

/-- Reads words up to the end. -/
def words (r : Reading) : List Word → Except Ending Reading
  | [] => r.settle
  | w :: ws =>
    if w = [dash, dash] then r.operands ws
    else
      match r.word w with
      | .error e => .error e
      | .ok r => r.words ws

/-- What the command line asks for, once it has been read. -/
def invocation (r : Reading) : Except Ending Invocation :=
  match r.input? with
  | none => refuse .missingInput
  | some input => .ok ⟨input, r.outputDir?, r.createDir, r.config?, r.summary?⟩

end Reading

/-- Reads a command line, without the program's name. -/
def Invocation.parse (args : List Word) : Except Ending Invocation :=
  Reading.words {} args >>= Reading.invocation

end PersonRelations.Command
