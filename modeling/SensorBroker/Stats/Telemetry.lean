/-
# Counters for monitoring

What happens in a broker is counted under names with labels, for a monitor to
read: a line per series, in the order of their text, and two for a series of
samples, their number and their total. What is counted one by one is exact; what
is set or summed up is kept in double precision.

Key definitions: `Measure`, `Series`, `Amount`, `Telemetry`,
`Telemetry.record`, `Telemetry.lines`.
-/
import SensorBroker.Decimal.Shortest
import SensorBroker.Sensor.Basic
import SensorBroker.Stats.Samples

namespace SensorBroker

/-- Something that is counted. -/
inductive Measure
  /-- A sensor was switched on or off. -/
  | toggled (sensor : SensorId) (on : Bool)
  /-- So many sensors are on. -/
  | active (count : Nat)
  /-- An event reached so many channels. -/
  | dispatched (sensor : SensorId) (fanOut : Nat)
  /-- An event found the queue full. -/
  | dropped (sensor : SensorId)
  /-- A channel failed. -/
  | channelError (kind : String)
  /-- Received bytes were dropped. -/
  | protocolReset
  /-- A flush was completed. -/
  | flushCompleted (sensor : SensorId) (delivered : Bool)
deriving DecidableEq, Inhabited

/-- A name with its labels. -/
structure Series where
  name : String
  labels : List (String × String)
deriving DecidableEq, Inhabited

/-- The text of a series. -/
def Series.text (s : Series) : String :=
  let label (l : String × String) : String := l.1 ++ "=\"" ++ l.2 ++ "\""
  if s.labels.isEmpty then s.name
  else s.name ++ "\x7b" ++ ",".intercalate (s.labels.map label) ++ "\x7d"

/-- The value of a series. -/
inductive Amount
  /-- So many times. -/
  | count (n : Nat)
  /-- A number in double precision. -/
  | level (x : Float)
  /-- Samples of a quantity. -/
  | spread (samples : Samples)
deriving Inhabited

/-- The lines of a series with its value. -/
def Amount.lines (s : Series) : Amount → List String
  | .count n => [s.text ++ " " ++ toString n]
  | .level x => [s.text ++ " " ++ Decimal.shortestText x]
  | .spread samples =>
    [{ s with name := s.name ++ "_count" }.text ++ " " ++ toString samples.count,
      { s with name := s.name ++ "_sum" }.text ++ " " ++ Decimal.shortestText samples.total]

/-- The value of each series. -/
structure Telemetry where
  values : List (Series × Amount)
deriving Inhabited

namespace Telemetry

/-- Nothing was counted. -/
def empty : Telemetry := ⟨[]⟩

instance : EmptyCollection Telemetry := ⟨empty⟩

/-- Gives a series a value. -/
def set (t : Telemetry) (s : Series) (a : Amount) : Telemetry :=
  ⟨(s, a) :: t.values.filter fun e => e.1 ≠ s⟩

/-- Counts once more. -/
def count (t : Telemetry) (name : String) (labels : List (String × String)) : Telemetry :=
  let s : Series := ⟨name, labels⟩
  match t.values.lookup s with
  | some (.count n) => t.set s (.count (n + 1))
  | _ => t.set s (.count 1)

/-- Adds a sample. -/
def sample (t : Telemetry) (name : String) (x : Float) : Telemetry :=
  let s : Series := ⟨name, []⟩
  match t.values.lookup s with
  | some (.spread samples) => t.set s (.spread (samples.add x))
  | _ => t.set s (.spread (Samples.empty.add x))

/-- The label of a sensor. -/
def sensorLabel (s : SensorId) : String × String :=
  ("sensor_id", s.text)

/-- Counts something. -/
def record (t : Telemetry) : Measure → Telemetry
  | .toggled s on =>
    t.count "sensord_sensor_toggles_total"
      [sensorLabel s, ("action", if on then "enable" else "disable")]
  | .active n => t.set ⟨"sensord_active_sensors", []⟩ (.level n.toFloat)
  | .dispatched s n =>
    (t.count "sensord_events_dispatched_total" [sensorLabel s]).sample
      "sensord_event_fan_out" n.toFloat
  | .dropped s => t.count "sensord_events_dropped_total" [sensorLabel s]
  | .channelError kind => t.count "sensord_channel_errors_total" [("kind", kind)]
  | .protocolReset => t.count "sensord_protocol_resets_total" []
  | .flushCompleted s delivered =>
    t.count "sensord_flush_completed_total"
      [sensorLabel s, ("status", if delivered then "delivered" else "dropped")]

/-- A line for each series, in the order of their text. -/
def lines (t : Telemetry) : List String :=
  (t.values.flatMap fun e => e.2.lines e.1).mergeSort fun a b => decide (a ≤ b)

end Telemetry
end SensorBroker
