/-
# What a command line asks for

There are three commands: to run the broker, to validate a configuration file,
and to show a configuration. How much is logged and in which format may be said
before the name of the command or behind it; what is said behind it counts. To
be quiet and to be verbose exclude one another on either side of the name.

Key definitions: `RunOptions`, `Command`, `Invocation`,
`Invocation.ofWords`.
-/
import SensorBroker.CommandLine.Logging
import SensorBroker.CommandLine.Options
import SensorBroker.CommandLine.Subscription
import SensorBroker.Config.Schema

namespace SensorBroker.CommandLine

open Text

/-- What the broker is to be run with. -/
structure RunOptions where
  /-- The configuration file; defaults hold without one. -/
  file : Option String
  /-- The backend to be tried first, whatever the file says. -/
  backend : Option BackendKind
  /-- Sensors to be mocked from the start, besides those of the file. -/
  inject : List SensorId
  /-- Subscribers within the broker's process. -/
  subscriptions : List SubscriptionSpec
  /-- How many seconds to run; zero for no end. -/
  timeout : UInt64
  /-- To stop once the configuration is checked. -/
  dryRun : Bool
  /-- Where monitoring is served; zero for nowhere. -/
  metricsPort : UInt16
deriving Inhabited

/-- A command. -/
inductive Command
  | run (options : RunOptions)
  /-- Check a configuration file. -/
  | validate (config : String) (json : Bool)
  /-- Show a configuration and, at will, the sensors of the software
  backend. -/
  | info (config : Option String) (json sensors : Bool)
deriving Inhabited

/-- The file that a command names. -/
def Command.path? : Command → Option String
  | .run options => options.file
  | .validate path _ => some path
  | .info path _ _ => path

/-- Whether a run goes on when so many nanoseconds have passed. -/
def RunOptions.goesOnAt (o : RunOptions) (now : Nat) : Bool :=
  o.timeout = 0 || now < o.timeout.toNat * 1000000000

/-- What a command line asks for. -/
structure Invocation where
  verbosity : Nat
  quiet : Bool
  logFormat : LogFormat
  command : Command
deriving Inhabited

/-! ## Options -/

/-- Why a text is no path, if it is none. -/
def refusesPath (s : String) : Option UsageError :=
  if s = "" then some .invalidValue else none

/-- Why a text is none of some names, if it is none. -/
def refusesOther (names : List String) (s : String) : Option UsageError :=
  if names.contains s then none else some .invalidValue

/-- The number between two bounds that a text is; it is read with 64 bits. -/
def numberIn? (low high : Int) (s : String) : Option Int :=
  match whole? Int64.minValue.toInt Int64.maxValue.toInt s with
  | .ok n => if low ≤ n && n ≤ high then some n else none
  | .error _ => none

/-- The unsigned number of 64 bits that a text is. -/
def unsigned? (s : String) : Option Nat :=
  (whole? 0 (UInt64.size - 1) s).toOption.map Int.toNat

/-- Why a value is refused that stands for nothing. -/
def refusesUnread {α : Type} : Option α → Option UsageError
  | some _ => none
  | none => some .valueValidation

/-- The sensor with an id on the command line. -/
def sensor? (s : String) : Option SensorId :=
  (numberIn? Int32.minValue.toInt Int32.maxValue.toInt s).map SensorId.ofInt

/-- The options that may stand on either side of the command's name. -/
def sharedOptions : List OptionSpec :=
  [⟨"verbose", some 'v', .count⟩, ⟨"quiet", some 'q', .flag⟩,
    ⟨"log-format", none, .single (refusesOther ["json", "pretty", "compact"])⟩,
    ⟨"help", some 'h', .help⟩]

/-- The options before the command's name. -/
def frontOptions : List OptionSpec :=
  sharedOptions ++ [⟨"version", some 'V', .version⟩]

/-- The option that names a configuration file. -/
def configOption : OptionSpec :=
  ⟨"config", some 'c', .single refusesPath⟩

/-- The options of running. -/
def runOptions : List OptionSpec :=
  [configOption,
    ⟨"backend", none,
      .single (refusesOther [BackendKind.vendor.name, BackendKind.software.name])⟩,
    ⟨"inject", none, .many (fun s => refusesUnread (sensor? s)) true⟩,
    ⟨"subscribe", none,
      .many (fun s => refusesUnread (SubscriptionSpec.ofText s).toOption) false⟩,
    ⟨"timeout", none, .single fun s => refusesUnread (unsigned? s)⟩,
    ⟨"dry-run", none, .flag⟩,
    ⟨"metrics-port", none, .single fun s => refusesUnread (numberIn? 0 65535 s)⟩]

/-- The options of validating. -/
def validateOptions : List OptionSpec :=
  [configOption, ⟨"json", none, .flag⟩]

/-- The options of showing a configuration. -/
def infoOptions : List OptionSpec :=
  [configOption, ⟨"json", none, .flag⟩, ⟨"sensors", none, .flag⟩]

/-- The words that name a command. -/
def commandNames : List String :=
  ["run", "validate", "info", "help"]

/-- The options of a command, by its name. -/
def optionsOf : String → List OptionSpec
  | "run" => runOptions
  | "validate" => validateOptions
  | _ => infoOptions

/-- The command with a name, from the options given. -/
def commandOf (name : String) (g : Given) : Command :=
  let config := (g.values "config").head?
  match name with
  | "run" =>
    .run {
      file := config
      backend := (g.values "backend").head?.bind BackendKind.ofName?
      inject := (g.values "inject").filterMap sensor?
      subscriptions := (g.values "subscribe").filterMap fun s =>
        (SubscriptionSpec.ofText s).toOption
      timeout := UInt64.ofNat (((g.values "timeout").head?.bind unsigned?).getD 0)
      dryRun := g.has "dry-run"
      metricsPort :=
        UInt16.ofNat (((g.values "metrics-port").head?.bind (numberIn? 0 65535)).getD 0).toNat }
  | "validate" => .validate (config.getD "sensord.toml") (g.has "json")
  | _ => .info config (g.has "json") (g.has "sensors")

/-! ## Command lines -/

/-- The options of one side of the command's name, once they are complete. -/
def complete (s : Scan) : Except UsageError Given := do
  let s ← s.settle
  if s.given.has "quiet" && s.given.has "verbose" then throw .conflict
  pure s.given

/-- What asking for help on a command comes to. -/
def helpOn : List String → UsageError
  | [] => .help
  | [name] => if commandNames.contains name then .help else .unknownCommand
  | _ => .unknownCommand

/-- Reads a command line, the program's name aside. -/
def Invocation.ofWords (words : List String) : Except UsageError Invocation := do
  let (front, found) ← scan frontOptions commandNames words .empty
  match found with
  | none =>
    let front ← front.settle
    throw (if front.given.isEmpty then .helpForNothing else .missingCommand)
  | some ("help", rest) => throw (helpOn rest)
  | some (name, rest) =>
    let (back, _) ← scan (sharedOptions ++ optionsOf name) [] rest .empty
    let back ← complete back
    let front ← complete front
    let shared (option : String) : List String :=
      if back.has option then back.values option else front.values option
    pure {
      verbosity := min 255 (shared "verbose").length
      quiet := back.has "quiet" || front.has "quiet"
      logFormat := LogFormat.ofName ((shared "log-format").headD "pretty")
      command := commandOf name back }

end SensorBroker.CommandLine
