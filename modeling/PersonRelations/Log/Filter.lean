import PersonRelations.Event
import PersonRelations.Log.Pattern
import PersonRelations.Settings
import PersonRelations.Text.Slice

/-!
# Log filters

Which events are shown is said by directives with commas between them. A directive is a level,
which is the threshold for every event; or a target with a level, which is the threshold for the
events of all targets that begin so; or a target alone, which lets through everything from there.
It can also name a field, in braces and brackets, and is then about the events that have it. Of the
directives that cover an event the one with the longest target decides; of those with the same
target one with a field, the last by name; and of those that are the same in this too the one that
comes last. A filter without directives lets errors through.

A directive can also be bound to a span, which is named in brackets, or ask for the value of a
field of one. Events here are in no span, so such a directive covers none; but it counts as a
directive.
-/

namespace PersonRelations.Log

/-- Why a text is no directive. -/
inductive DirectiveError where
  /-- What stands for a level is none. -/
  | level
  /-- The text has not the shape of a directive. -/
  | shape
  /-- What stands for the value of a field is neither a plain value nor a pattern. -/
  | field (fault : Pattern.Fault)
  deriving DecidableEq, Repr

/-- The reason in words. -/
def DirectiveError.message : DirectiveError → String
  | level =>
    "error parsing level filter: expected one of \"off\", \"error\", \"warn\", \"info\", " ++
      "\"debug\", \"trace\", or a number 0-5"
  | shape => "invalid filter directive"
  | field fault => "invalid field filter: " ++ fault.message

/-- The gravest to the least grave level that is let through; `none` lets nothing through. -/
abbrev Threshold := Option Level

/-- Whether events of a level are let through. -/
def Threshold.admits (t : Threshold) (l : Level) : Bool :=
  t.any fun most ↦ l.verbosity ≤ most.verbosity

/-- The thresholds, from the strictest; a number is the place of one in this list. -/
def thresholds : List (String × Threshold) :=
  [("off", none), ("error", some .error), ("warn", some .warn), ("info", some .info),
    ("debug", some .debug), ("trace", some .trace)]

/-- The threshold that a text spells, by number or by name in any letter case. -/
def Threshold.ofText? (s : String) : Option Threshold :=
  match Count.ofString? s with
  | some n => (thresholds[n.toNat]?).map Prod.snd
  | none => thresholds.lookup (String.ofList (s.toList.map Char.toLower))

/-- Which events a directive is about. -/
inductive Scope where
  /-- Those of the targets that begin so, if a target is given, that have the field, if one is
  given. -/
  | events (target? field? : Option String)
  /-- Those in a span. -/
  | span
  deriving DecidableEq, Repr

namespace Scope

/-- Whether an event is in the scope. -/
def covers : Scope → Event → Bool
  | events target? field?, e =>
    target?.all (fun t ↦ t.toList.isPrefixOf e.target.toList) && field?.all e.hasField
  | span, _ => false

/-- How special the target is: a longer one is more so. -/
def targetRank : Scope → Nat
  | events (some t) _ => t.utf8ByteSize + 1
  | _ => 0

/-- The field, if one is given. -/
def field? : Scope → Option String
  | events _ f => f
  | span => none

/-- Whether the first field is at least as special as the second: any is more so than none, and a
later name more than an earlier one. -/
def fieldAtLeast : Option String → Option String → Bool
  | _, none => true
  | none, some _ => false
  | some f, some g => g ≤ f

/-- Whether the first scope is at least as special as the second. -/
def atLeast (s t : Scope) : Bool :=
  t.targetRank < s.targetRank || (t.targetRank == s.targetRank && fieldAtLeast s.field? t.field?)

end Scope

/-- One piece of a filter. -/
structure Directive where
  scope : Scope
  threshold : Threshold
  deriving DecidableEq, Repr

/-- Whether the text is a number without a sign: a decimal, which may have an exponent, or a word
for infinity or for no number. -/
def isUnsignedNumber (cs : List Char) : Bool :=
  ["inf", "infinity", "nan"].contains (String.ofList (cs.map Char.toLower)) ||
    let whole := cs.takeWhile Char.isDigit
    let behind := cs.dropWhile Char.isDigit
    let (fraction, behind) :=
      match behind with
      | '.' :: rest => (rest.takeWhile Char.isDigit, rest.dropWhile Char.isDigit)
      | _ => ([], behind)
    (!whole.isEmpty || !fraction.isEmpty) &&
      match behind with
      | [] => true
      | e :: rest =>
        let digits := if rest.head? == some '+' || rest.head? == some '-' then rest.tail else rest
        (e == 'e' || e == 'E') && !digits.isEmpty && digits.all Char.isDigit

/-- Why the text is not the value of a field, if it is none. A number may have a sign; everything
else has to be a pattern. -/
def valueFault? (value : List Char) : Option Pattern.Fault :=
  match value with
  | '+' :: digits => if isUnsignedNumber digits then none else Pattern.fault? value
  | _ => Pattern.fault? value

namespace Directive

/-- Whether a directive can begin with the character. -/
def canBegin (c : Char) : Bool :=
  c == '[' || c == '-' || c == ':' || c == '_' || Text.isLetter c || Text.isNumeral c

/-- A word alone: a level, or else a target. -/
def ofWord (word : String) : Directive :=
  match Threshold.ofText? word with
  | some t => ⟨.events none none, t⟩
  | none => ⟨.events (some word) none, some .trace⟩

/-- A scope with what stands behind the equals sign. Nothing there lets everything through. -/
def ofLevel (scope : Scope) (level : List Char) : Except DirectiveError Directive :=
  if level.isEmpty then .ok ⟨scope, some .trace⟩
  else
    match Threshold.ofText? (String.ofList level) with
    | some t => .ok ⟨scope, t⟩
    | none => .error .level

/-- The scope of a directive with a field in braces, which may have a value behind an equals
sign. Without a value, and without a span, it is about events. -/
def fieldScope (target? : Option String) (inSpan : Bool) (field : List Char) :
    Except DirectiveError Scope :=
  match field.splitOn '=' with
  | [] => .error .shape
  | [name] => .ok (if inSpan then .span else .events target? (some (String.ofList name)))
  | _ :: value :: _ =>
    match valueFault? value with
    | some f => .error (.field f)
    | none => .ok .span

/-- What follows the brackets of a directive: nothing, or a level. -/
def ofRest (scope : Scope) (rest level : List Char) : Except DirectiveError Directive :=
  match rest with
  | [] => .ok ⟨scope, some .trace⟩
  | '=' :: _ => ofLevel scope level
  | _ => .error .shape

/-- The directive that a piece of a filter spells. Where its parts meet is found without the white
space around it, and counted off, in bytes, from the start of the whole piece. -/
def parse (piece : String) : Except DirectiveError Directive :=
  let body := Text.trim Text.isBlank piece.toList
  let upTo (rest : List Char) := Text.byteLength body - Text.byteLength rest
  let onFrom (rest : List Char) := Text.dropBytes (upTo rest) piece.toList
  let part (first last : List Char) := Text.takeBytes (upTo last - upTo first) (onFrom first)
  if body.head?.any canBegin then
    match body.dropWhile fun c ↦ c != '=' && c != '[' with
    | '=' :: level =>
      let target := String.ofList (part body ('=' :: level))
      ofLevel (.events (some target) none) (onFrom level)
    | '[' :: inner =>
      let target := String.ofList (part body ('[' :: inner))
      match inner.dropWhile fun c ↦ c != ']' && c != '\x7b' with
      | ']' :: rest => ofRest .span rest (onFrom rest.tail)
      | '\x7b' :: fieldOn =>
        match fieldOn.dropWhile (· != '\x7d') with
        | '\x7d' :: rest =>
          let field := part fieldOn ('\x7d' :: rest)
          let spanName := part inner ('\x7b' :: fieldOn)
          if field.isEmpty then .error .shape
          else do
            let scope ← fieldScope (if body.head? == some '[' then none else some target)
              (!spanName.isEmpty) field
            match rest with
            | ']' :: rest => ofRest scope rest (onFrom rest.tail)
            | _ => .error .shape
        | _ => .error .shape
      | _ => .error .shape
    | _ => .ok (ofWord piece)
  else .error .shape

end Directive

/-- The directives that say which events are shown, in order. -/
abbrev Filter := List Directive

namespace Filter

/-- The pieces of a filter's text that are not empty. -/
def pieces (text : String) : List String :=
  ((text.toList.splitOn ',').filter fun p ↦ !p.isEmpty).map String.ofList

/-- The filter of the given directives: without any, errors are let through. -/
def ofDirectives (ds : List Directive) : Filter :=
  if ds.isEmpty then [⟨.events none none, some .error⟩] else ds

/-- The filter that a text spells, if every piece is a directive. -/
def parse? (text : String) : Option Filter :=
  ((pieces text).mapM fun p ↦ (Directive.parse p).toOption).map ofDirectives

/-- A line about a piece that is no directive. -/
def complaint? (piece : String) : Option String :=
  match Directive.parse piece with
  | .ok _ => none
  | .error e => some ("ignoring " ++ "\x60" ++ piece ++ "\x60: " ++ e.message)

/-- The filter of the pieces that are directives, and a line about each that is not. -/
def parseLenient (text : String) : Filter × List String :=
  (ofDirectives ((pieces text).filterMap fun p ↦ (Directive.parse p).toOption),
    (pieces text).filterMap complaint?)

/-- The directive that decides about an event. -/
def deciding? (f : Filter) (e : Event) : Option Directive :=
  f.foldl (fun best d ↦
    if d.scope.covers e && best.all fun b ↦ d.scope.atLeast b.scope then some d else best) none

/-- Whether an event is shown. -/
def shows (f : Filter) (e : Event) : Bool :=
  (f.deciding? e).any fun d ↦ d.threshold.admits e.level

end Filter

end PersonRelations.Log
