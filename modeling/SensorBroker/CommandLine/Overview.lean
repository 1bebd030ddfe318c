/-
# The overview of a configuration

An overview shows the settings that matter to whoever runs the broker, with
spans in whole milliseconds, and at will the sensors of the software backend
with those that may be mocked. Before a run that is only a rehearsal the
settings are shown more briefly (`Config.digest`).

Key definitions: `Overview`, `Overview.ofConfig`, `Overview.tree`,
`Overview.text`, `Config.digest`.
-/
import SensorBroker.CommandLine.Validation
import SensorBroker.Hardware.Device

namespace SensorBroker

open Text

/-- The whole milliseconds in a span. -/
def wholeMillis (span : Nanos) : Int :=
  (span / 1000000).toInt

/-- A sensor in an overview. -/
structure OverviewSensor where
  descriptor : Descriptor
  /-- Whether it is there only as a mock. -/
  isMock : Bool
deriving DecidableEq, Inhabited

/-- The overview of a configuration. -/
structure Overview where
  config : Config
  /-- The sensors to be shown. -/
  sensors : List OverviewSensor
deriving Inhabited

/-- The sensors of the software backend, and then the mocks it may be asked
for. -/
def Config.softwareSensors (c : Config) : List OverviewSensor :=
  Device.software.listed.map (⟨·, false⟩)
    ++ (c.hardware.mockable.filterMap mockDescriptor).map (⟨·, true⟩)

namespace OverviewSensor

/-- The sensor as a value. -/
def tree (s : OverviewSensor) : Json.Tree :=
  let d := s.descriptor
  .object
    [("sensor_id", .number d.sensor.toInt), ("name", .text d.name), ("vendor", .text d.vendor),
      ("min_period_ms", .number (wholeMillis d.minPeriod)),
      ("max_period_ms", .number (wholeMillis d.maxPeriod)),
      ("on_change", .truth d.isOnChange), ("mock", .truth s.isMock)]

/-- The sensor in a line. -/
def text (s : OverviewSensor) : String :=
  let d := s.descriptor
  alignRight 4 d.sensor.text ++ " " ++ d.name ++ " (" ++ d.vendor ++ ", "
    ++ toString (wholeMillis d.minPeriod) ++ "-" ++ toString (wholeMillis d.maxPeriod) ++ " ms"
    ++ (if d.isOnChange then ", on-change" else "") ++ (if s.isMock then ", mock" else "") ++ ")"

end OverviewSensor

namespace Overview

/-- The overview of a configuration, with sensors at will. -/
def ofConfig (c : Config) (withSensors : Bool) : Overview :=
  ⟨c, if withSensors then c.softwareSensors else []⟩

/-- Sensors as a value. -/
def ids (sensors : List SensorId) : Json.Tree :=
  .list (sensors.map fun s => .number s.toInt)

/-- The overview as a value. -/
def tree (o : Overview) : Json.Tree :=
  let c := o.config
  .object
    ([("backend", .text c.hardware.backend.label),
      ("default_sampling_period_ms", .number (wholeMillis c.service.defaultPeriod)),
      ("max_event_count", .number c.service.maxEventCount.toInt),
      ("event_queue_capacity", .number c.service.eventQueueCapacity.toNat),
      ("freezing_exempt", ids c.service.freezingExempt),
      ("transport", .object
        [("max_packet_size", .number c.transport.maxPacketSize.toNat),
          ("once_process_limit", .number c.transport.passLimit.toNat),
          ("poll_timeout_ms", .number c.transport.pollTimeout.toNat),
          ("pending_queue_capacity", .number c.transport.pendingCapacity.toNat)]),
      ("supported_mock_sensors", ids c.hardware.mockable),
      ("inject_on_start", ids c.hardware.injectOnStart)]
      ++ if o.sensors.isEmpty then []
        else [("sensors", .list (o.sensors.map OverviewSensor.tree))])

/-- The overview, line by line. -/
def lines (o : Overview) : List String :=
  let c := o.config
  let sensors (ids : List SensorId) : String := bracketed (ids.map SensorId.text)
  framed 18 "Sensor Broker Configuration"
    ++ "⚙️  Service" :: branches
      ["Default sampling period: " ++ toString (wholeMillis c.service.defaultPeriod) ++ " ms",
        "Max event count: " ++ toString c.service.maxEventCount.toInt,
        "Event queue: " ++ toString c.service.eventQueueCapacity.toNat,
        "Freezing exempt: " ++ sensors c.service.freezingExempt]
    ++ "" :: "🔌 Transport" :: branches
      ["Max packet size: " ++ toString c.transport.maxPacketSize.toNat ++ " bytes",
        "Frames per pass: " ++ toString c.transport.passLimit.toNat,
        "Poll timeout: " ++ toString c.transport.pollTimeout.toNat ++ " ms",
        "Pending queue: " ++ toString c.transport.pendingCapacity.toNat ++ " bytes"]
    ++ "" :: "🧩 Hardware" :: branches
      ["Backend: " ++ c.hardware.backend.label,
        "Mockable: " ++ sensors c.hardware.mockable,
        "Injected at start: " ++ sensors c.hardware.injectOnStart]
    ++ (if o.sensors.isEmpty then []
      else "" :: ("📡 Sensors (" ++ toString o.sensors.length ++ ")")
        :: branches (o.sensors.map OverviewSensor.text))
    ++ [""]

/-- The overview in words or, at will, in JSON. -/
def text (o : Overview) (json : Bool) : String :=
  if json then o.tree.render ++ "\n" else unlines o.lines

end Overview

/-- The settings in brief. -/
def Config.digest (c : Config) : String :=
  let sensors (ids : List SensorId) : String := bracketed (ids.map SensorId.label)
  unlines
    (["",
      "=== Configuration Summary ===",
      "",
      "Service:",
      "  Default sampling period: " ++ toString (wholeMillis c.service.defaultPeriod) ++ " ms",
      "  Max event count: " ++ toString c.service.maxEventCount.toInt,
      "  Event queue: " ++ toString c.service.eventQueueCapacity.toNat,
      "  Freezing exempt: " ++ sensors c.service.freezingExempt,
      "",
      "Transport:",
      "  Max packet size: " ++ toString c.transport.maxPacketSize.toNat ++ " bytes",
      "  Pending queue: " ++ toString c.transport.pendingCapacity.toNat ++ " bytes",
      "",
      "Hardware:",
      "  Backend: " ++ c.hardware.backend.label,
      "  Mockable: " ++ sensors c.hardware.mockable]
      ++ (if c.hardware.injectOnStart.isEmpty then []
        else ["  Injected at start: " ++ sensors c.hardware.injectOnStart])
      ++ [""])

end SensorBroker
