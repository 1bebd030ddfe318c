/-
# The report of a validation

A configuration file is valid or it is not, and then the report names the
cause. Of a valid one it gives the main settings, and warns of settings that
are allowed and hardly meant: payloads too small for a sample of many axes, a
queue too short for a burst, no sensor that outlasts a freeze, mocks of sensors
that the software backend serves anyway.

Key definitions: `Config.warnings`, `ValidationReport`,
`ValidationReport.ofFile`, `ValidationReport.tree`, `ValidationReport.text`.
-/
import SensorBroker.Config.Load
import SensorBroker.Text.Layout

namespace SensorBroker

open Text

/-- What a backend is called in reports. -/
def BackendKind.label : BackendKind → String
  | .vendor => "Real"
  | .software => "Compatible"

/-- The least payload that a sample of many axes fits into. -/
def usefulPayload : UInt32 := 64

/-- The shortest queue that takes a burst of a fast sensor. -/
def usefulQueue : UInt64 := 64

/-- Warnings of settings that are allowed and hardly meant. -/
def Config.warnings (c : Config) : List String :=
  let warning (applies : Bool) (text : String) : List String := if applies then [text] else []
  warning (c.transport.maxPacketSize < usefulPayload)
      ("transport.max_packet_size = " ++ toString c.transport.maxPacketSize.toNat
        ++ " - multi-axis sensor events may not fit in one frame")
    ++ warning (c.service.eventQueueCapacity < usefulQueue)
      ("service.event_queue_capacity = " ++ toString c.service.eventQueueCapacity.toNat
        ++ " - bursts will be dropped")
    ++ warning c.service.freezingExempt.isEmpty
      "service.freezing_exempt is empty - step counters stop while frozen"
    ++ warning (c.hardware.backend = .software && !c.hardware.injectOnStart.isEmpty)
      "hdi.inject_on_start with the compatible backend - mocks duplicate software sensors"

/-- What a validation found. -/
structure ValidationReport where
  path : String
  /-- The configuration, or what is wrong. -/
  found : Except String Config

namespace ValidationReport

/-- Validates a file. -/
def ofFile (path : String) (content : FileContent) : ValidationReport where
  path := path
  found :=
    if content.isMissing then .error ("File not found: " ++ path)
    else (Config.loadFile path content).mapError Fault.message

/-- Whether the file is valid. -/
def isValid (r : ValidationReport) : Bool :=
  r.found.isOk

/-- The main settings of a valid file. -/
def settings (c : Config) : List (String × Json.Tree) :=
  [("backend", .text c.hardware.backend.label),
    ("max_packet_size", .number c.transport.maxPacketSize.toNat),
    ("event_queue_capacity", .number c.service.eventQueueCapacity.toNat),
    ("mockable_sensors", .number c.hardware.mockable.length),
    ("injected_sensors", .number c.hardware.injectOnStart.length),
    ("freezing_exempt", .number c.service.freezingExempt.length)]

/-- The report as a value. -/
def tree (r : ValidationReport) : Json.Tree :=
  .object ([("valid", .truth r.isValid), ("config_path", .text r.path)]
    ++ match r.found with
      | .error cause => [("error", .text cause)]
      | .ok c =>
        (if c.warnings.isEmpty then [] else [("warnings", .list (c.warnings.map .text))])
          ++ [("summary", .object (settings c))])

/-- The report, line by line. -/
def lines (r : ValidationReport) : List String :=
  match r.found with
  | .error cause => ["✗ Configuration is invalid: " ++ r.path, "", "  Error: " ++ cause]
  | .ok c =>
    ["✓ Configuration is valid: " ++ r.path,
      "",
      "  Backend: " ++ c.hardware.backend.label,
      "  Max packet size: " ++ toString c.transport.maxPacketSize.toNat,
      "  Event queue: " ++ toString c.service.eventQueueCapacity.toNat,
      "  Mock sensors: " ++ toString c.hardware.mockable.length ++ " supported, "
        ++ toString c.hardware.injectOnStart.length ++ " injected",
      "  Freezing exempt: " ++ toString c.service.freezingExempt.length]
      ++ if c.warnings.isEmpty then []
        else "" :: "⚠ Warnings:" :: c.warnings.map ("  - " ++ ·)

/-- The report in words or, at will, in JSON. -/
def text (r : ValidationReport) (json : Bool) : String :=
  if json then r.tree.render ++ "\n" else unlines r.lines

end ValidationReport
end SensorBroker
