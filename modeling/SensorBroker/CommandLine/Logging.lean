/-
# What is logged

Lines are logged in one of three formats, from a level of importance on, which
the environment may set to another.

Key definitions: `LogFormat`, `LogSettings`.
-/

namespace SensorBroker.CommandLine

/-- How log lines are written. -/
inductive LogFormat
  | json
  | pretty
  | compact
deriving DecidableEq, Inhabited

namespace LogFormat

/-- The name of a log format. -/
def label : LogFormat → String
  | .json => "Json"
  | .pretty => "Pretty"
  | .compact => "Compact"

/-- The log format with a name on the command line. -/
def ofName : String → LogFormat
  | "json" => .json
  | "compact" => .compact
  | _ => .pretty

end LogFormat

/-- The settings of logging and monitoring. -/
structure LogSettings where
  format : LogFormat := .json
  /-- Where monitoring is served, if anywhere. -/
  metricsPort : Option UInt16 := some 9464
  /-- The least important lines that are written. -/
  level : String := "info"
  /-- Whether the environment may set another level. -/
  respectsEnvironment : Bool := true
deriving DecidableEq, Inhabited

end SensorBroker.CommandLine
