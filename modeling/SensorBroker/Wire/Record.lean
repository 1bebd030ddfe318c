/-
# The records on the wire

Four records travel in payloads: events, descriptors, subscriptions and
reports of subscription changes. Each is the sequence of its fields, in the
order of its structure.

Key definitions: `Codec.event`, `Codec.descriptor`, `Codec.activeInfo`,
`Codec.subscriptionReport`.
-/
import SensorBroker.Wire.Codec

namespace SensorBroker
namespace Codec

/-- Sensor, version, timestamp, option, mode, data. -/
def event : Codec Event :=
  (sensorId.pair (int32.pair (int64.pair (int32.pair (int32.pair run))))).via
    (fun e => (e.sensor, e.version, e.timestamp, e.option, e.mode, e.data))
    (fun (sensor, version, timestamp, option, mode, data) =>
      ⟨sensor, version, timestamp, option, mode, data⟩)

/-- Sensor and type, the four texts, the three measures, the two periods, the
flags. -/
def descriptor : Codec Descriptor :=
  (sensorId.pair (sensorId.pair (text.pair (text.pair (text.pair (text.pair
    (single.pair (single.pair (single.pair (int64.pair (int64.pair uint32))))))))))).via
    (fun d => (d.sensor, d.sensorType, d.name, d.vendor, d.firmwareVersion, d.hardwareVersion,
      d.maxRange, d.resolution, d.power, d.minPeriod, d.maxPeriod, d.flags))
    (fun (sensor, sensorType, name, vendor, firmware, hardware, maxRange, resolution, power,
        minPeriod, maxPeriod, flags) =>
      ⟨sensor, sensorType, name, vendor, firmware, hardware, maxRange, resolution, power,
        minPeriod, maxPeriod, flags⟩)

/-- Process, sensor, period, delay. -/
def activeInfo : Codec ActiveInfo :=
  (int32.pair (sensorId.pair (int64.pair int64))).via
    (fun i => (i.pid, i.sensor, i.period, i.delay))
    (fun (pid, sensor, period, delay) => ⟨pid, sensor, period, delay⟩)

/-- Process, sensor, whether it stands, period, delay. -/
def subscriptionReport : Codec SubscriptionReport :=
  (int32.pair (sensorId.pair (truth.pair (int64.pair int64)))).via
    (fun r => (r.pid, r.sensor, r.isActive, r.period, r.delay))
    (fun (pid, sensor, isActive, period, delay) => ⟨pid, sensor, isActive, period, delay⟩)

end Codec
end SensorBroker
