/-
# The connection to the hardware

The broker has one primary backend: the vendor's, or, where that cannot be
opened or is not wanted, a software one. Where the primary lacks a sensor that
may be mocked, a second, compatible backend is opened, and from then on mocks
of such sensors can be injected and withdrawn. Every call about a sensor goes
to one backend: to the compatible one if the sensor is mocked, to the primary
if the primary has it, and to none otherwise (`Hardware.route`).

Backends other than the vendor's are built when they are needed, each from the
blueprint with its own number.

Key definitions: `Slot`, `Hardware`, `Hardware.connect`, `Hardware.route`,
`Hardware.perform`, `Hardware.inject`, `Hardware.withdraw`.
Key theorems: `Hardware.perform_of_route_error`.
-/
import SensorBroker.Config.Basic
import SensorBroker.Hardware.Device

namespace SensorBroker

/-- Which backend. -/
inductive Slot
  | vendor
  /-- The backend built as number `n`. -/
  | built (n : Nat)
deriving DecidableEq, Inhabited

/-- The connection to the hardware. -/
structure Hardware where
  vendor : Device
  /-- How the backend with a number is built. -/
  blueprint : Nat → Device
  /-- The backends built so far. -/
  built : List Device
  /-- Which backend is tried first. -/
  preferred : BackendKind
  /-- The sensors that may be mocked. -/
  mockable : List SensorId
  primary : Option Slot
  /-- The backend that serves mocks. -/
  compatible : Option Slot
  /-- The sensors of the primary backend. -/
  listed : List Descriptor
  /-- The sensors that are mocked. -/
  mocks : Table SensorId Unit
  /-- Events raised and not collected yet, oldest first. -/
  raised : List Event
deriving Inhabited

namespace Hardware

/-- A connection that is not open yet. -/
def ofSettings (settings : HardwareSettings) (vendor : Device) (blueprint : Nat → Device) :
    Hardware where
  vendor := vendor
  blueprint := blueprint
  built := []
  preferred := settings.backend
  mockable := settings.mockable
  primary := none
  compatible := none
  listed := []
  mocks := ∅
  raised := []

/-- The backend in a slot. -/
def device (h : Hardware) : Slot → Device
  | .vendor => h.vendor
  | .built n => h.built.getD n h.vendor

/-- Puts a backend into its slot. -/
def setDevice (h : Hardware) (d : Device) : Slot → Hardware
  | .vendor => { h with vendor := d }
  | .built n => { h with built := h.built.set n d }

/-- Opens the backend in a slot. -/
def openSlot (h : Hardware) (slot : Slot) : Except HardwareError Unit × Hardware :=
  ((h.device slot).connect.1, h.setDevice (h.device slot).connect.2 slot)

/-- Builds one more backend and opens it. -/
def openBuilt (h : Hardware) : Except HardwareError Slot × Hardware :=
  let slot := Slot.built h.built.length
  let h := { h with built := h.built ++ [h.blueprint h.built.length] }
  match h.openSlot slot with
  | (.ok _, h) => (.ok slot, h)
  | (.error e, h) => (.error e, h)

/-- Opens the backend that is to be the primary one. -/
def openPrimary (h : Hardware) : Except HardwareError Slot × Hardware :=
  match h.preferred with
  | .software => h.openBuilt
  | .vendor =>
    match h.openSlot .vendor with
    | (.ok _, h) => (.ok .vendor, h)
    | (.error _, h) => h.openBuilt

/-- Registers for the events of the backend in a slot. -/
def listen (h : Hardware) (slot : Slot) : Hardware :=
  h.setDevice (h.device slot).listen slot

/-- Whether the primary backend has a sensor. -/
def lists (h : Hardware) (s : SensorId) : Bool :=
  h.listed.any fun d => d.sensor = s

/-- Opens the primary backend and, where it lacks a sensor that may be mocked,
the compatible one. -/
def connect (h : Hardware) : Except HardwareError Unit × Hardware :=
  match h.openPrimary with
  | (.error e, h) => (.error e, h)
  | (.ok slot, h) =>
    let h := { h.listen slot with listed := (h.device slot).listed, primary := some slot }
    if h.mockable.all h.lists then (.ok (), h)
    else
      match h.openBuilt with
      | (.error e, h) => (.error e, h)
      | (.ok slot, h) => (.ok (), { h.listen slot with compatible := some slot })

/-- Closes the backend in a slot, if there is one. -/
def closeSlot (h : Hardware) : Option Slot → Hardware
  | none => h
  | some slot => h.setDevice (h.device slot).disconnect slot

/-- Closes every backend. -/
def disconnect (h : Hardware) : Hardware :=
  let h := { h.closeSlot h.compatible with compatible := none }
  { h.closeSlot h.primary with primary := none }

/-- Whether a sensor is mocked. -/
def isMocked (h : Hardware) (s : SensorId) : Bool :=
  h.mocks.contains s

/-- Whether some backend serves a sensor. -/
def has (h : Hardware) (s : SensorId) : Bool :=
  h.lists s || h.isMocked s

/-- The sensors of the primary backend, then the mocks. -/
def sensors (h : Hardware) : List Descriptor :=
  h.listed ++ h.mocks.keys.filterMap mockDescriptor

/-- Mocks a sensor. -/
def inject (h : Hardware) (s : SensorId) : Except HardwareError Unit × Hardware :=
  if h.lists s then (.error (.alreadyPresent s), h)
  else if !h.mockable.contains s || (mockDescriptor s).isNone then (.error (.unsupported s), h)
  else if h.compatible.isNone then (.error (.notConnected s), h)
  else if h.isMocked s then (.error (.alreadyPresent s), h)
  else (.ok (), { h with mocks := h.mocks.insert s () })

/-- Ends the mock of a sensor. -/
def withdraw (h : Hardware) (s : SensorId) : Except HardwareError Unit × Hardware :=
  if h.isMocked s then (.ok (), { h with mocks := h.mocks.erase s })
  else (.error (.mockNotFound s), h)

/-- The backend that serves a sensor. -/
def route (h : Hardware) (s : SensorId) : Except HardwareError Slot :=
  let served (slot : Option Slot) : Except HardwareError Slot :=
    match slot with
    | some slot => .ok slot
    | none => .error (.notConnected s)
  if h.isMocked s then served h.compatible
  else if h.lists s then served h.primary
  else .error (.sensorNotFound s)

/-- Asks the backend that serves the sensor of a call to do it. -/
def perform (h : Hardware) (c : DeviceCall) : Except HardwareError Unit × Hardware :=
  match h.route c.sensor with
  | .error e => (.error e, h)
  | .ok slot =>
    let p := (h.device slot).perform c
    (p.result, { h.setDevice p.device slot with raised := h.raised ++ p.raised })

/-- The hardware raises an event at a backend. -/
def emit (h : Hardware) (slot : Slot) (e : Event) : Hardware :=
  { h with raised := h.raised ++ (h.device slot).emit e }

/-- Takes the events raised so far. -/
def collect (h : Hardware) : List Event × Hardware :=
  (h.raised, { h with raised := [] })

/-- A call about a sensor that no backend serves reaches none. -/
theorem perform_of_route_error {h : Hardware} {c : DeviceCall} {e : HardwareError}
    (he : h.route c.sensor = .error e) : h.perform c = (.error e, h) := by
  simp [perform, he]

end Hardware
end SensorBroker
