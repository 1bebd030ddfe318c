/-
# Sensors, their descriptors and their events

A sensor is known by its type id: there is one physical (or mocked) sensor of
a type. What the hardware says about a sensor is its `Descriptor`; what the
sensor says is an `Event`, a sample or the marker that ends a flush.

Single-precision values are kept as their bits (`Single`), so that a copy of a
descriptor is exact, not-a-numbers included. Periods and delays are signed
64-bit nanoseconds, ids and pids signed 32-bit numbers, as they are on the
wire.

Key definitions: `SensorId`, `Single`, `Descriptor`, `Event`,
`Event.isFlushComplete`, `ActiveInfo`, `SubscriptionReport`.
-/
import SensorBroker.Table

namespace SensorBroker

/-- The bytes of a payload or of a piece of a stream. -/
abbrev Bytes := List UInt8

/-- A process id. -/
abbrev Pid := Int32

/-- A user id. -/
abbrev Uid := Int32

/-- The number a client is known by when its death is announced. -/
abbrev Token := UInt64

/-- A time span in nanoseconds. -/
abbrev Nanos := Int64

/-- The id of a sensor, which is the id of its type. -/
structure SensorId where
  /-- The type id. -/
  raw : Int32
deriving DecidableEq, Inhabited

namespace SensorId

instance : Key SensorId := ⟨fun s => s.raw.toInt, fun {a b} h => by
  cases a; cases b; exact congrArg _ (Int32.toInt_inj.1 h)⟩

instance : LE SensorId := ⟨fun a b => a.raw ≤ b.raw⟩

instance (a b : SensorId) : Decidable (a ≤ b) := inferInstanceAs (Decidable (a.raw ≤ b.raw))

/-- The sensor with type id `n`. -/
def ofInt (n : Int) : SensorId :=
  ⟨Int32.ofInt n⟩

/-- The type id as an integer. -/
def toInt (s : SensorId) : Int :=
  s.raw.toInt

@[simp] theorem ofInt_toInt (s : SensorId) : ofInt s.toInt = s := by
  simp [ofInt, toInt]

/-- The type id in decimal. -/
def text (s : SensorId) : String :=
  toString s.toInt

/-- The type id, said to be one. -/
def label (s : SensorId) : String :=
  "SensorId(" ++ s.text ++ ")"

/-- No sensor has a negative id. -/
def isValid (s : SensorId) : Bool :=
  0 ≤ s.raw

/-! ## Well-known types -/

def accelerometer : SensorId := ⟨1⟩
def color : SensorId := ⟨14⟩
def specificAbsorption : SensorId := ⟨15⟩
def posture : SensorId := ⟨20⟩
def pedometerDetection : SensorId := ⟨265⟩
def pedometer : SensorId := ⟨266⟩

/-- The types a software backend can stand in for. -/
def mockable : List SensorId :=
  [color, specificAbsorption, posture]

/-- The types that keep running while their owner is frozen. -/
def freezingExempt : List SensorId :=
  [pedometerDetection, pedometer]

end SensorId

/-- A single-precision number, kept as its bits. -/
structure Single where
  /-- Sign, exponent and fraction, from the highest bit down. -/
  bits : UInt32
deriving DecidableEq, Inhabited

/-- What the hardware says about a sensor. -/
structure Descriptor where
  sensor : SensorId
  sensorType : SensorId
  name : String
  vendor : String
  firmwareVersion : String
  hardwareVersion : String
  /-- The largest value it measures. -/
  maxRange : Single
  /-- The smallest step it tells apart. -/
  resolution : Single
  /-- The current it draws, in milliamperes. -/
  power : Single
  /-- Its fastest sampling period. -/
  minPeriod : Nanos
  /-- Its slowest sampling period. -/
  maxPeriod : Nanos
  /-- Reporting mode bits. -/
  flags : UInt32
deriving DecidableEq, Inhabited

/-- The flag of a sensor that reports only when its value changes. -/
def Descriptor.onChangeFlag : UInt32 := 1

/-- Whether the sensor reports only when its value changes. -/
def Descriptor.isOnChange (d : Descriptor) : Bool :=
  d.flags &&& onChangeFlag == onChangeFlag

/-- One event of a backend. -/
structure Event where
  sensor : SensorId
  /-- The version of the layout of the data. -/
  version : Int32
  timestamp : Int64
  /-- Option bits. -/
  option : Int32
  /-- The reporting mode at the time of the event. -/
  mode : Int32
  data : Bytes
deriving DecidableEq, Inhabited

namespace Event

/-- The option bit of the event that ends a flush. -/
def flushCompleteOption : Int32 := 1

/-- A sample. -/
def sample (sensor : SensorId) (timestamp : Int64) (data : Bytes) : Event :=
  ⟨sensor, 0, timestamp, 0, 0, data⟩

/-- The marker that a flush has drained. -/
def flushComplete (sensor : SensorId) (timestamp : Int64) : Event :=
  ⟨sensor, 0, timestamp, flushCompleteOption, 0, []⟩

/-- Whether the event ends a flush rather than carrying a sample. -/
def isFlushComplete (e : Event) : Bool :=
  e.option &&& flushCompleteOption == flushCompleteOption

@[simp] theorem isFlushComplete_flushComplete (s : SensorId) (t : Int64) :
    (flushComplete s t).isFlushComplete = true := by
  simp [isFlushComplete, flushComplete, flushCompleteOption]

end Event

/-- What a client asked of a sensor. -/
structure Request where
  /-- The sampling period. -/
  period : Nanos
  /-- The longest time a sample may wait in the hardware. -/
  delay : Nanos
deriving DecidableEq, Inhabited

/-- A subscription of a process, as clients are told of it. -/
structure ActiveInfo where
  pid : Pid
  sensor : SensorId
  period : Nanos
  delay : Nanos
deriving DecidableEq, Inhabited

/-- A change of a subscription, as listeners are told of it. -/
structure SubscriptionReport where
  pid : Pid
  sensor : SensorId
  /-- Whether the subscription now stands. -/
  isActive : Bool
  period : Nanos
  delay : Nanos
deriving DecidableEq, Inhabited

/-- The subscription a report is about. -/
def SubscriptionReport.toActiveInfo (r : SubscriptionReport) : ActiveInfo :=
  ⟨r.pid, r.sensor, r.period, r.delay⟩

end SensorBroker
