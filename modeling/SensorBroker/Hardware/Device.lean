/-
# Backends

A backend reports sensors and is told, sensor by sensor, to report or to stop,
at which period and delay, in which mode, and to flush or reset. It keeps which
sensors it reports, and a log of every call with its outcome.

Two kinds of backend are known. A scripted one serves any sensor and refuses
whatever its script says, a function of the log and the call, so that failures
may come at any point. The software one serves four sensors, and stands in for
hardware that is not there. A call that is refused changes nothing but the log
(`Device.perform_refused`).

An event reaches whoever registered for events; flushing raises the event that
ends the flush.

Key definitions: `DeviceCall`, `LoggedCall`, `Device`, `Device.verdict`,
`Device.perform`, `Device.scripted`, `Device.software`, `mockDescriptor`.
Key theorems: `Device.perform_refused`, `Device.perform_accepted`.
-/
import SensorBroker.Hardware.Error

namespace SensorBroker

/-- A command a backend runs for a sensor. -/
inductive DeviceCommand
  /-- Drain what waits in the hardware; a completion event ends it. -/
  | flush
  /-- Go back to the parameters of power-on. -/
  | reset
deriving DecidableEq, Inhabited

/-- The name of a command. -/
def DeviceCommand.name : DeviceCommand → String
  | .flush => "Flush"
  | .reset => "Reset"

/-- A call to a backend. -/
inductive DeviceCall
  | enable (sensor : SensorId)
  | disable (sensor : SensorId)
  | setBatch (sensor : SensorId) (request : Request)
  | setMode (sensor : SensorId) (mode : Int32)
  | command (sensor : SensorId) (command : DeviceCommand)
deriving DecidableEq, Inhabited

namespace DeviceCall

/-- The sensor a call is about. -/
def sensor : DeviceCall → SensorId
  | .enable s => s
  | .disable s => s
  | .setBatch s _ => s
  | .setMode s _ => s
  | .command s _ => s

/-- The name of an operation, as errors give it. -/
def operation : DeviceCall → String
  | .enable _ => "enable"
  | .disable _ => "disable"
  | .setBatch .. => "set_batch"
  | .setMode .. => "set_mode"
  | .command .. => "run_command"

end DeviceCall

/-- A call and whether it was done. -/
structure LoggedCall where
  call : DeviceCall
  accepted : Bool
deriving DecidableEq, Inhabited

/-- How a backend behaves. -/
inductive DeviceKind
  /-- Does what its script lets it do. -/
  | scripted
  /-- Makes up samples of a few sensors. -/
  | software
deriving DecidableEq, Inhabited

/-- A backend. -/
structure Device where
  kind : DeviceKind
  /-- The name in errors. -/
  name : String
  /-- The sensors it reports to have. -/
  listed : List Descriptor
  /-- Whether it refuses to be opened. -/
  refusesConnection : Bool
  /-- Whether it refuses a call, given the calls before it, latest first. -/
  refuses : List LoggedCall → DeviceCall → Bool
  /-- Whether a flush ends at once. -/
  completesFlush : Bool
  connected : Bool
  /-- Whether somebody has registered for events. -/
  listening : Bool
  /-- The sensors that report. -/
  enabled : Table SensorId Unit
  /-- The calls so far, latest first. -/
  log : List LoggedCall
deriving Inhabited

namespace Device

/-- The sensors the software backend serves. -/
def softwareSensors : List SensorId :=
  [.accelerometer, .color, .specificAbsorption, .posture]

/-- Why a backend refuses a call, if it does. -/
def verdict (d : Device) (c : DeviceCall) : Option HardwareError :=
  if !d.connected then some (.notConnected c.sensor)
  else
    match d.kind with
    | .scripted =>
      if d.refuses d.log c then some (.refused d.name c.operation c.sensor "scripted failure")
      else none
    | .software =>
      if !softwareSensors.contains c.sensor then
        some (.refused d.name c.operation c.sensor "sensor not supported")
      else
        match c with
        | .enable s =>
          if d.listening then none else some (.refused d.name c.operation s "no data callback")
        | .disable s =>
          if d.enabled.contains s then none
          else some (.refused d.name c.operation s "sensor not enabled")
        | _ => none

/-- The sensors that report after a call was done. -/
def enabledAfter (d : Device) : DeviceCall → Table SensorId Unit
  | .enable s => d.enabled.insert s ()
  | .disable s => d.enabled.erase s
  | _ => d.enabled

/-- The events a call raises when it is done. -/
def eventsOf (d : Device) : DeviceCall → List Event
  | .command s .flush => if d.listening && d.completesFlush then [.flushComplete s 0] else []
  | _ => []

/-- What came of a call. -/
structure Performed where
  result : Except HardwareError Unit
  device : Device
  /-- The events it raised. -/
  raised : List Event

/-- Asks a backend to do something. -/
def perform (d : Device) (c : DeviceCall) : Performed :=
  match d.verdict c with
  | some e => ⟨.error e, { d with log := ⟨c, false⟩ :: d.log }, []⟩
  | none =>
    ⟨.ok (), { d with enabled := d.enabledAfter c, log := ⟨c, true⟩ :: d.log }, d.eventsOf c⟩

/-- Opens a backend. -/
def connect (d : Device) : Except HardwareError Unit × Device :=
  if d.refusesConnection then (.error (.connectFailed d.name "scripted failure"), d)
  else (.ok (), { d with connected := true })

/-- Closes a backend, which ends all reporting. -/
def disconnect (d : Device) : Device :=
  { d with connected := false, enabled := ∅ }

/-- Registers for the events of a backend. -/
def listen (d : Device) : Device :=
  { d with listening := true }

/-- The events that arrive when the hardware raises one. -/
def emit (d : Device) (e : Event) : List Event :=
  if d.listening then [e] else []

/-- Whether a sensor reports. -/
def reports (d : Device) (s : SensorId) : Bool :=
  d.enabled.contains s

/-- The parameters last asked for a sensor, taken or not. -/
def lastBatch (d : Device) (s : SensorId) : Option Request :=
  d.log.findSome? fun
    | ⟨.setBatch s' r, _⟩ => if s' = s then some r else none
    | _ => none

/-- The parameters a sensor last took. -/
def programmed (d : Device) (s : SensorId) : Option Request :=
  d.log.findSome? fun
    | ⟨.setBatch s' r, true⟩ => if s' = s then some r else none
    | _ => none

/-- A refused call changes nothing but the log. -/
theorem perform_refused {d : Device} {c : DeviceCall} {e : HardwareError}
    (h : d.verdict c = some e) :
    d.perform c = ⟨.error e, { d with log := ⟨c, false⟩ :: d.log }, []⟩ := by
  simp [perform, h]

/-- A call that is not refused is done. -/
theorem perform_accepted {d : Device} {c : DeviceCall} (h : d.verdict c = none) :
    d.perform c = ⟨.ok (), { d with enabled := d.enabledAfter c, log := ⟨c, true⟩ :: d.log },
      d.eventsOf c⟩ := by
  simp [perform, h]

/-! ## Scripted backends -/

/-- The descriptor of a scripted sensor. -/
def scriptedDescriptor (s : SensorId) : Descriptor where
  sensor := s
  sensorType := s
  name := "scripted_" ++ s.text
  vendor := "scripted"
  firmwareVersion := "1.0.0"
  hardwareVersion := "1.0.0"
  maxRange := ⟨0x42C80000⟩
  resolution := ⟨0x3C23D70A⟩
  power := ⟨0x3F800000⟩
  minPeriod := 1000000
  maxPeriod := 1000000000
  flags := 0

/-- A scripted backend with these sensors. -/
def scripted (name : String) (listed : List Descriptor)
    (refuses : List LoggedCall → DeviceCall → Bool) (refusesConnection completesFlush : Bool) :
    Device where
  kind := .scripted
  name := name
  listed := listed
  refusesConnection := refusesConnection
  refuses := refuses
  completesFlush := completesFlush
  connected := false
  listening := false
  enabled := ∅
  log := []

/-- From now on an operation is refused on exactly these sensors; other
operations are refused as before. -/
def refuseOn (d : Device) (operation : String) (sensors : List SensorId) : Device :=
  { d with refuses := fun past c =>
      if c.operation = operation then sensors.contains c.sensor else d.refuses past c }

/-! ## The software backend -/

/-- The descriptor of the sensor the software backend always has. -/
def softwareDescriptor : Descriptor where
  sensor := .accelerometer
  sensorType := .accelerometer
  name := "sensor_test"
  vendor := "default"
  firmwareVersion := "1.0.0"
  hardwareVersion := "1.0.0"
  maxRange := ⟨0x461C3C00⟩
  resolution := ⟨0x358637BD⟩
  power := ⟨0x41B80000⟩
  minPeriod := 100000000
  maxPeriod := 1000000000
  flags := 0

/-- The software backend. -/
def software : Device where
  kind := .software
  name := "compatible"
  listed := [softwareDescriptor]
  refusesConnection := false
  refuses := fun _ _ => false
  completesFlush := true
  connected := false
  listening := false
  enabled := ∅
  log := []

/-- The sample the software backend makes up for a sensor: single-precision
numbers, little-endian. -/
def softwareSample (s : SensorId) : Bytes :=
  if s = .color then [0xCD, 0xCC, 0x0C, 0x40, 0x33, 0x33, 0x53, 0x40]
  else if s = .specificAbsorption then [0xCD, 0xCC, 0x0C, 0x41]
  else if s = .posture then
    [0xCD, 0xCC, 0x1C, 0x41, 0, 0, 0, 0, 0, 0, 0, 0, 0xCD, 0xCC, 0x1C, 0x41,
      0, 0, 0, 0, 0, 0, 0, 0, 0, 0, 0x34, 0x43]
  else [0xCD, 0xCC, 0x1C, 0x41, 0, 0, 0, 0, 0, 0, 0, 0]

/-- The name of a kind of backend. -/
def kindName (d : Device) : String :=
  match d.kind with
  | .scripted => "scripted"
  | .software => "compatible"

end Device

/-- The descriptor of a mock, where a sensor can be mocked. -/
def mockDescriptor (s : SensorId) : Option Descriptor :=
  let mock (name vendor : String) : Descriptor :=
    ⟨s, s, name, vendor, "1.0.1", "1.0.1", ⟨0x461C3C00⟩, ⟨0x358637BD⟩, ⟨0x41A00000⟩,
      100000000, 1000000000, 0⟩
  if s = .color then some (mock "sensor_color" "default_color")
  else if s = .specificAbsorption then some (mock "sensor_sar" "default_sar")
  else if s = .posture then some (mock "sensor_posture" "default_posture")
  else none

end SensorBroker
