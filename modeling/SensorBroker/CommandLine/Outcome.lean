/-
# What a command comes to

Validating a file and showing a configuration come to a text, and validation of
a file that is not valid fails after its text. Running comes to nothing yet: it
needs time. What is run is the configuration from the file with what the
command line says in its place, or besides it, once that is allowed.

Key definitions: `CommandError`, `Outcome`, `RunOptions.config`, `Plan`,
`Command.plan`.
-/
import SensorBroker.CommandLine.Files
import SensorBroker.CommandLine.Invocation
import SensorBroker.CommandLine.Overview
import SensorBroker.Service.Error

namespace SensorBroker.CommandLine

/-- Why a command failed. -/
inductive CommandError
  | missingFile (path : String)
  | unloadable (path : String) (cause : Fault)
  /-- What the command line says is not allowed with the rest. -/
  | invalidOverrides (cause : Fault)
  /-- The file to be validated is not valid. -/
  | invalidFile
  | notStarted (cause : ServiceError)

/-- The wording of an error: what failed, and why. -/
def CommandError.message : CommandError → String
  | .missingFile path => "Configuration file not found: " ++ path
  | .unloadable path cause => "Failed to load config from " ++ path ++ ": " ++ cause.message
  | .invalidOverrides cause => "Invalid configuration after overrides: " ++ cause.message
  | .invalidFile => "Configuration validation failed"
  | .notStarted cause =>
    "Broker execution failed: Failed to start sensor service: " ++ cause.message

/-- What a command came to. -/
structure Outcome where
  /-- What it prints. -/
  output : String
  /-- Why it failed, if it did. -/
  error : Option CommandError

namespace Outcome

/-- The command succeeded. -/
def success (output : String) : Outcome :=
  ⟨output, none⟩

/-- The command failed before it printed anything. -/
def failure (e : CommandError) : Outcome :=
  ⟨"", some e⟩

end Outcome

/-- The configuration in a file, or the default one where no file is named. -/
def configFrom (files : Files) : Option String → Except CommandError Config
  | none => .ok {}
  | some path =>
    if (files path).isMissing then .error (.missingFile path)
    else (Config.loadFile path (files path)).mapError (.unloadable path)

/-- Adds the sensors to be mocked that are not named yet. -/
def addMocks (named : List SensorId) : List SensorId → List SensorId
  | [] => named
  | s :: rest => addMocks (if named.contains s then named else named ++ [s]) rest

/-- A configuration with what the command line says. -/
def RunOptions.override (o : RunOptions) (c : Config) : Config :=
  { c with
    hardware :=
      { c.hardware with
        backend := o.backend.getD c.hardware.backend
        injectOnStart := addMocks c.hardware.injectOnStart o.inject } }

/-- The configuration that is run. -/
def RunOptions.config (o : RunOptions) (files : Files) : Except CommandError Config := do
  let c := o.override (← configFrom files o.file)
  c.validate.mapError .invalidOverrides
  pure c

/-- What is to be done for a command. -/
inductive Plan
  /-- Nothing but to print. -/
  | print (outcome : Outcome)
  /-- Run the broker. -/
  | run (config : Config) (options : RunOptions)

/-- Works out what is to be done for a command. -/
def Command.plan (files : Files) : Command → Plan
  | .validate path json =>
    let report := ValidationReport.ofFile path (files path)
    .print ⟨report.text json, if report.isValid then none else some .invalidFile⟩
  | .info path json sensors =>
    match configFrom files path with
    | .error e => .print (.failure e)
    | .ok c => .print (.success ((Overview.ofConfig c sensors).text json))
  | .run options =>
    match options.config files with
    | .error e => .print (.failure e)
    | .ok c => if options.dryRun then .print (.success c.digest) else .run c options

end SensorBroker.CommandLine
