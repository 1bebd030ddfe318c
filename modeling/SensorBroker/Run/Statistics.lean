/-
# The statistics of a run

A run is summed up when it ends: how long it took, which sensors there were,
what each subscriber within the process received, and what was dispatched.

Key definitions: `SubscriberStats`, `SubscriberStats.rate`, `RunStats`,
`RunStats.received`, `RunStats.text`.
-/
import SensorBroker.Decimal.Fixed
import SensorBroker.Stats.Dispatch
import SensorBroker.Text.Layout

namespace SensorBroker

open Text

/-- The seconds in so many nanoseconds. -/
def secondsOf (nanos : Nat) : Float :=
  (nanos / 1000000000).toFloat + (nanos % 1000000000).toFloat / 1000000000.0

/-- What a subscriber received. -/
structure SubscriberStats where
  pid : Pid
  sensor : SensorId
  events : Nat := 0
  /-- Completions of its flushes. -/
  flushes : Nat := 0
  bytes : Nat := 0
  /-- Whether the broker closed its channel before the end. -/
  hungUp : Bool := false
deriving DecidableEq, Inhabited

/-- The events a subscriber received in a second, of a run of so many
nanoseconds. -/
def SubscriberStats.rate (s : SubscriberStats) (duration : Nat) : Float :=
  if 0.0 < secondsOf duration then s.events.toFloat / secondsOf duration else 0.0

/-- A subscriber in a line. -/
def SubscriberStats.text (s : SubscriberStats) (duration : Nat) : String :=
  "pid " ++ toString s.pid.toInt ++ " / sensor " ++ s.sensor.text ++ ": " ++ toString s.events
    ++ " events (" ++ Decimal.fixed 1 (s.rate duration) ++ "/s), " ++ toString s.flushes
    ++ " flushes, " ++ toString s.bytes ++ " bytes" ++ if s.hungUp then ", hung up" else ""

/-- The statistics of a run. -/
structure RunStats where
  /-- Its length in nanoseconds. -/
  duration : Nat
  /-- How many sensors there were after the start. -/
  sensors : Nat
  /-- How many sensors were mocked at the end. -/
  mocked : Nat
  subscribers : List SubscriberStats
  dispatch : DispatchSummary
deriving Inhabited

namespace RunStats

/-- The events that subscribers received. -/
def received (s : RunStats) : Nat :=
  s.subscribers.foldr (fun subscriber n => subscriber.events + n) 0

/-- The report of a run, line by line. -/
def lines (s : RunStats) : List String :=
  "" :: framed 22 "Broker Statistics"
    ++ "📊 Overview" :: branches
      ["Duration: " ++ Decimal.fixed 2 (secondsOf s.duration) ++ "s",
        "Sensors available: " ++ toString s.sensors,
        "Mocked sensors: " ++ toString s.mocked,
        "Events received by clients: " ++ toString s.received]
    ++ (if s.subscribers.isEmpty then []
      else "" :: "👥 Subscribers" :: branches (s.subscribers.map (·.text s.duration)))
    ++ "" :: "📈 Dispatch" :: s.dispatch.lines.map ("   " ++ ·)
    ++ [""]

/-- The report of a run. -/
def text (s : RunStats) : String :=
  unlines s.lines

end RunStats
end SensorBroker
