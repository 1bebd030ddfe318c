/-
# Options on a command line

A command line is a sequence of words: options, their values, and the name of a
command. A word with two dashes is an option by its long name, with its value
behind an equals sign or in the next word; a word with one dash is one or more
options by their letters, of which one that takes a value takes the rest of the
word or the next one. Behind a lone double dash no word is an option.

Words are taken from the left and the first flaw decides. A value that came as
a word of its own is looked at only when the next option is met, or at the end.

Key definitions: `UsageError`, `OptionKind`, `OptionSpec`, `Given`,
`Given.take`, `Scan`, `scan`, `Scan.settle`.
-/

namespace SensorBroker.CommandLine

/-- Why a command line is not carried out. -/
inductive UsageError
  /-- It asks for help. -/
  | help
  /-- It asks for the version. -/
  | version
  /-- It says nothing. -/
  | helpForNothing
  /-- It names no command. -/
  | missingCommand
  | unknownCommand
  | unknownArgument
  /-- Two options exclude one another, or one is given twice. -/
  | conflict
  /-- A value is not what its option takes. -/
  | valueValidation
  /-- A value is missing, empty, or none of those there are. -/
  | invalidValue
  /-- An option that takes no value is given one. -/
  | tooManyValues
deriving DecidableEq, Inhabited

/-- The short name of an error. -/
def UsageError.kind : UsageError → String
  | .help => "DisplayHelp"
  | .version => "DisplayVersion"
  | .helpForNothing => "DisplayHelpOnMissingArgumentOrSubcommand"
  | .missingCommand => "MissingSubcommand"
  | .unknownCommand => "InvalidSubcommand"
  | .unknownArgument => "UnknownArgument"
  | .conflict => "ArgumentConflict"
  | .valueValidation => "ValueValidation"
  | .invalidValue => "InvalidValue"
  | .tooManyValues => "TooManyValues"

/-- Whether a command line asks for nothing but a text. -/
def UsageError.isRequest : UsageError → Bool
  | .help => true
  | .version => true
  | _ => false

/-- How the program is called. -/
def usage : String :=
  "Usage: sensord [OPTIONS] <COMMAND>\n\nCommands:\n  run\n  validate\n  info\n  help\n"

/-- What is answered to a command line that is not carried out. -/
def UsageError.answer : UsageError → String
  | .version => "sensord 0.1.0\n"
  | .unknownCommand => "there is no such command\n\n" ++ usage
  | .unknownArgument => "there is no such argument\n\n" ++ usage
  | .conflict => "these options exclude one another\n\n" ++ usage
  | .valueValidation => "a value cannot be read\n\n" ++ usage
  | .invalidValue => "a value is missing or not known\n\n" ++ usage
  | .tooManyValues => "an option takes no value\n\n" ++ usage
  | _ => usage

/-- What an option is. -/
inductive OptionKind
  | help
  | version
  /-- It may be given once. -/
  | flag
  /-- It is counted. -/
  | count
  /-- It takes one value and may be given once. -/
  | single (refuses : String → Option UsageError)
  /-- It takes a value each time it is given, or several with commas between
  them if `commas`. -/
  | many (refuses : String → Option UsageError) (commas : Bool)

/-- Whether an option takes a value. -/
def OptionKind.takesValue : OptionKind → Bool
  | .single _ => true
  | .many .. => true
  | _ => false

/-- An option. -/
structure OptionSpec where
  long : String
  short : Option Char
  kind : OptionKind

/-- The options given so far, by long name, each with its values; a counted
option has an empty value for each time. -/
abbrev Given := List (String × List String)

namespace Given

/-- Whether an option is given. -/
def has (g : Given) (name : String) : Bool :=
  g.any fun e => e.1 = name

/-- The values of an option. -/
def values (g : Given) (name : String) : List String :=
  (g.lookup name).getD []

/-- Adds to the values of an option. -/
def add (g : Given) (name : String) (vs : List String) : Given :=
  (name, g.values name ++ vs) :: g.filter fun e => e.1 ≠ name

/-- Takes an option with the values it came with. -/
def take (g : Given) (spec : OptionSpec) (vs : List String) : Except UsageError Given :=
  match spec.kind, vs with
  | .help, _ => .error .help
  | .version, _ => .error .version
  | .flag, _ => if g.has spec.long then .error .conflict else .ok (g.add spec.long [])
  | .count, _ => .ok (g.add spec.long [""])
  | .single _, [] => .error .invalidValue
  | .single refuses, v :: _ =>
    if g.has spec.long then .error .conflict
    else
      match refuses v with
      | some e => .error e
      | none => .ok (g.add spec.long [v])
  | .many _ _, [] => .error .invalidValue
  | .many refuses commas, v :: _ =>
    let parts := if commas then v.splitOn "," else [v]
    match parts.findSome? refuses with
    | some e => .error e
    | none => .ok (g.add spec.long parts)

end Given

/-- How far a command line has been read. -/
structure Scan where
  given : Given
  /-- The option whose value stands in a word of its own, with that word once
  it was met. -/
  pending : Option (OptionSpec × Option String)

namespace Scan

/-- Nothing was read. -/
def empty : Scan := ⟨[], none⟩

/-- Whether the next word is a value. -/
def awaitsValue (s : Scan) : Bool :=
  match s.pending with
  | some (_, none) => true
  | _ => false

/-- Takes the option that waits to be looked at. -/
def settle (s : Scan) : Except UsageError Scan :=
  match s.pending with
  | none => .ok s
  | some (spec, v) => (s.given.take spec v.toList).map fun g => ⟨g, none⟩

/-- Takes an option that is complete. -/
def accept (s : Scan) (spec : OptionSpec) (vs : List String) : Except UsageError Scan := do
  let s ← s.settle
  (s.given.take spec vs).map fun g => ⟨g, none⟩

/-- Notes an option whose value is the next word. -/
def await (s : Scan) (spec : OptionSpec) : Except UsageError Scan :=
  s.settle.map fun s => { s with pending := some (spec, none) }

/-- Takes a word with two dashes. -/
def long (specs : List OptionSpec) (word : List Char) (s : Scan) : Except UsageError Scan :=
  let name := String.ofList (word.takeWhile (· ≠ '='))
  let value := match word.dropWhile (· ≠ '=') with
    | _ :: v => some (String.ofList v)
    | [] => none
  match specs.find? fun spec => spec.long = name with
  | none => .error .unknownArgument
  | some spec =>
    match spec.kind.takesValue, value with
    | true, some v => s.accept spec [v]
    | true, none => s.await spec
    | false, some _ => .error .tooManyValues
    | false, none => s.accept spec []

/-- Takes the letters of a word with one dash. -/
def short (specs : List OptionSpec) : List Char → Scan → Except UsageError Scan
  | [], s => .ok s
  | c :: cs, s =>
    match specs.find? fun spec => spec.short = some c with
    | none => .error .unknownArgument
    | some spec =>
      if spec.kind.takesValue then
        match cs with
        | [] => s.await spec
        | '=' :: v => s.accept spec [String.ofList v]
        | v => s.accept spec [String.ofList v]
      else do short specs cs (← s.accept spec [])

end Scan

/-- What is wrong with a word that is nothing. -/
def strayWord (commands : List String) : UsageError :=
  if commands.isEmpty then .unknownArgument else .unknownCommand

/-- What is wrong with the words behind a double dash, if there are some. -/
def afterDashes (commands : List String) (s : Scan) :
    List String → Except UsageError (Scan × Option (String × List String))
  | [] => .ok (s, none)
  | word :: _ =>
    .error (if commands.contains word then .unknownArgument else strayWord commands)

/-- Reads words up to the name of a command; answers that name and the words
behind it. -/
def scan (specs : List OptionSpec) (commands : List String) :
    List String → Scan → Except UsageError (Scan × Option (String × List String))
  | [], s => .ok (s, none)
  | word :: rest, s =>
    if !s.awaitsValue && commands.contains word then .ok (s, some (word, rest))
    else
      match word.toList with
      | ['-', '-'] => afterDashes commands s rest
      | '-' :: '-' :: body => do scan specs commands rest (← s.long specs body)
      | '-' :: c :: cs => do scan specs commands rest (← s.short specs (c :: cs))
      | _ =>
        match s.pending with
        | some (spec, none) => scan specs commands rest { s with pending := some (spec, some word) }
        | _ => .error (strayWord commands)

end SensorBroker.CommandLine
