/-
# Subscriptions on the command line

A subscription is written as a sensor, a period and, at will, a delay, in
milliseconds, with colons between them. In nanoseconds a span is what the
multiplication gives in signed 64 bits, cut off at the ends of the range; what
was read as an unsigned number is taken as the signed one with the same bits.

Key definitions: `SubscriptionSpec`, `SubscriptionFlaw`,
`SubscriptionSpec.ofText`, `nanosOfMillis`.
-/
import SensorBroker.Sensor.Basic
import SensorBroker.Text.Whole

namespace SensorBroker

open Text

/-- A subscription as it is asked for. -/
structure SubscriptionSpec where
  sensor : SensorId
  /-- The period in milliseconds. -/
  period : UInt64
  /-- The delay in milliseconds. -/
  delay : UInt64
deriving DecidableEq, Inhabited

/-- The span of so many milliseconds. -/
def nanosOfMillis (ms : UInt64) : Nanos :=
  let n := ms.toInt64.toInt * 1000000
  Int64.ofInt (max Int64.minValue.toInt (min Int64.maxValue.toInt n))

/-- What is asked of the sensor. -/
def SubscriptionSpec.request (s : SubscriptionSpec) : Request :=
  ⟨nanosOfMillis s.period, nanosOfMillis s.delay⟩

/-- What is wrong with a subscription. -/
inductive SubscriptionFlaw
  /-- There are too few or too many parts. -/
  | parts
  /-- A part is no number of its range. -/
  | number (part : String) (flaw : WholeFlaw)
deriving DecidableEq, Inhabited

/-- The wording of a flaw. -/
def SubscriptionFlaw.detail : SubscriptionFlaw → String
  | .parts => "expected SENSOR:PERIOD_MS[:DELAY_MS]"
  | .number part flaw => part ++ ": " ++ flaw.message

/-- The report of a flaw in a text. -/
def SubscriptionFlaw.message (flaw : SubscriptionFlaw) (text : String) : String :=
  "invalid subscription '" ++ text ++ "': " ++ flaw.detail

namespace SubscriptionSpec

/-- The number that a part of a subscription is, white space around it aside. -/
def part (name : String) (low high : Int) (s : String) : Except SubscriptionFlaw Int :=
  match whole? low high (trim s) with
  | .ok n => .ok n
  | .error flaw => .error (.number name flaw)

/-- The milliseconds that a part of a subscription is. -/
def millis (name s : String) : Except SubscriptionFlaw UInt64 :=
  (part name 0 (UInt64.size - 1) s).map fun n => UInt64.ofNat n.toNat

/-- Reads the parts of a subscription, from the left. -/
def ofParts (sensor period : String) (delay : Option String) :
    Except SubscriptionFlaw SubscriptionSpec := do
  let s ← part "sensor id" Int32.minValue.toInt Int32.maxValue.toInt sensor
  let p ← millis "period" period
  let d ← match delay with
    | some delay => millis "delay" delay
    | none => pure 0
  pure ⟨.ofInt s, p, d⟩

/-- Reads a subscription. -/
def ofText (s : String) : Except SubscriptionFlaw SubscriptionSpec :=
  match s.splitToList (· == ':') with
  | [sensor, period] => ofParts sensor period none
  | [sensor, period, delay] => ofParts sensor period (some delay)
  | _ => .error .parts

end SubscriptionSpec
end SensorBroker
