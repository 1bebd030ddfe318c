/-
# Samples as time passes

The software backend reports every enabled sensor once in each period, which
is the period last programmed, or the default where none above zero was. How
much time has passed is said in nanoseconds since the start; the samples of a
span are those whose time lies in it, its end included and its start not.

Key definitions: `Device.samplingPeriod`, `dueTimes`, `Device.samplesDue`,
`Hardware.elapse`.
-/
import SensorBroker.Hardware.Connection

namespace SensorBroker

/-- The period of a sensor nobody has programmed. -/
def defaultSamplingPeriod : Nanos := 200000000

/-- The shortest time a software sensor waits between two samples. -/
def shortestWait : Nat := 1000000

/-- What a call makes of the period of a sensor, if anything. -/
def LoggedCall.periodFor (s : SensorId) : LoggedCall → Option Nanos
  | ⟨.setBatch s' r, true⟩ =>
    if s' = s then some (if r.period ≤ 0 then defaultSamplingPeriod else r.period) else none
  | ⟨.command s' .reset, true⟩ => if s' = s then some defaultSamplingPeriod else none
  | _ => none

/-- How long a software sensor waits between two samples. -/
def Device.samplingPeriod (d : Device) (s : SensorId) : Nat :=
  let asked := (d.log.findSome? (LoggedCall.periodFor s)).getD defaultSamplingPeriod
  max shortestWait asked.toInt.toNat

/-- The multiples of a period after one time and up to another. -/
def dueTimes (period before now : Nat) : List Nat :=
  (List.range' (before / period + 1) (now / period - before / period)).map (· * period)

/-- The samples a backend makes up in a span of time, by time. -/
def Device.samplesDue (d : Device) (before now : Nat) : List Event :=
  match d.kind with
  | .scripted => []
  | .software =>
    (d.enabled.keys.flatMap fun s =>
      (dueTimes (d.samplingPeriod s) before now).map fun t =>
        Event.sample s (Int64.ofNat t) (Device.softwareSample s)).mergeSort
      fun e e' => decide (e.timestamp ≤ e'.timestamp)

namespace Hardware

/-- The samples of the backend in a slot are raised. -/
def elapseSlot (before now : Nat) (h : Hardware) (slot : Slot) : Hardware :=
  ((h.device slot).samplesDue before now).foldl (fun h e => h.emit slot e) h

/-- A span of time passes: the samples that are due in it are raised. -/
def elapse (h : Hardware) (before now : Nat) : Hardware :=
  (Slot.vendor :: (List.range h.built.length).map Slot.built).foldl (elapseSlot before now) h

end Hardware
end SensorBroker
