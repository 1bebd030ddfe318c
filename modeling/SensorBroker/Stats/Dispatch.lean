/-
# Totals of dispatching

What the dispatcher did is added up event by event: how many channels an event
reached, how many failed, how many events nobody subscribed to, which
completions of a flush somebody had asked for.

Key definitions: `DispatchTotals`, `DispatchTotals.event`,
`DispatchTotals.flush`, `DispatchSummary`, `DispatchSummary.lines`.
-/
import SensorBroker.Sensor.Basic
import SensorBroker.Stats.Running

namespace SensorBroker

/-- The totals so far. -/
structure DispatchTotals where
  /-- Events that were routed. -/
  events : Nat := 0
  /-- Events that no channel was offered. -/
  unrouted : Nat := 0
  /-- Channels that failed to take an event. -/
  channelErrors : Nat := 0
  /-- Completions that reached who had asked for them. -/
  flushesDelivered : Nat := 0
  /-- Completions that did not. -/
  flushesDropped : Nat := 0
  /-- The channels an event reached. -/
  fanOut : RunningStats := {}
  /-- The events of each sensor. -/
  perSensor : Table SensorId Nat := ∅
deriving Inhabited

namespace DispatchTotals

/-- An event of a sensor reached some channels and failed to reach others. -/
def event (t : DispatchTotals) (s : SensorId) (fanOut errors : Nat) : DispatchTotals :=
  { t with
    events := t.events + 1
    unrouted := if fanOut = 0 ∧ errors = 0 then t.unrouted + 1 else t.unrouted
    channelErrors := t.channelErrors + errors
    fanOut := t.fanOut.push fanOut.toFloat
    perSensor := t.perSensor.insert s (t.perSensor.getD s 0 + 1) }

/-- A flush was completed. -/
def flush (t : DispatchTotals) (delivered : Bool) : DispatchTotals :=
  if delivered then { t with flushesDelivered := t.flushesDelivered + 1 }
  else { t with flushesDropped := t.flushesDropped + 1 }

end DispatchTotals

/-- What is reported of dispatching. -/
structure DispatchSummary where
  totals : DispatchTotals
  /-- Events that found the queue full. -/
  dropped : Nat
deriving Inhabited

namespace DispatchSummary

/-- The report, line by line, below its title. -/
def lines (s : DispatchSummary) : List String :=
  let t := s.totals
  let sensors := t.perSensor.entries.map fun e => "  " ++ e.1.text ++ ": " ++ toString e.2
  ["Total events: " ++ toString t.events,
    "Unrouted events: " ++ toString t.unrouted,
    "Dropped on full queue: " ++ toString s.dropped,
    "Channel errors: " ++ toString t.channelErrors,
    "Flushes: " ++ toString t.flushesDelivered ++ " delivered, " ++ toString t.flushesDropped
      ++ " dropped",
    "Fan-out: " ++ t.fanOut.summary.text]
    ++ if sensors.isEmpty then [] else "Events per sensor:" :: sensors

/-- The report. -/
def text (s : DispatchSummary) : String :=
  String.join (("=== Dispatch Summary ===" :: s.lines).map (· ++ "\n"))

end DispatchSummary
end SensorBroker
