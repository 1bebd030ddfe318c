/-
# The settings of a broker

Three groups of settings: how subscriptions are arbitrated, how channels carry
frames, and which hardware is used. Every setting has a default, so the empty
configuration is one.

Key definitions: `ServiceSettings`, `TransportSettings`, `BackendKind`,
`HardwareSettings`, `Config`.
-/
import SensorBroker.Wire.ReceiveBuffer

namespace SensorBroker

/-- How subscriptions are arbitrated. -/
structure ServiceSettings where
  /-- The period of a client that asks for none. -/
  defaultPeriod : Nanos := 200000000
  /-- The most samples that may wait in the hardware: the largest quotient of
  delay and period. -/
  maxEventCount : Int64 := 1000
  /-- How many events may wait to be dispatched. -/
  eventQueueCapacity : UInt64 := 1024
  /-- Sensors that are never suspended with their owner. -/
  freezingExempt : List SensorId := SensorId.freezingExempt
deriving DecidableEq, Inhabited

/-- How channels carry frames. -/
structure TransportSettings where
  /-- The largest payload of a frame. -/
  maxPacketSize : UInt32 := 256
  /-- The frames of one pass over received bytes. -/
  passLimit : UInt64 := 100
  /-- How long a watcher waits for bytes, in milliseconds. -/
  pollTimeout : UInt64 := 100
  /-- How often a full socket is tried before the rest is queued. -/
  retryLimit : UInt64 := 5
  /-- How many bytes a channel may queue. -/
  pendingCapacity : UInt64 := 65536
  /-- The bytes of one read. -/
  readChunk : UInt64 := 4096
deriving DecidableEq, Inhabited

/-- The framing that the settings of a channel ask of a receiver. -/
def TransportSettings.framing (t : TransportSettings) : Framing :=
  ⟨t.maxPacketSize, t.passLimit.toNat, t.readChunk.toNat⟩

/-- Which backend is tried first. -/
inductive BackendKind
  /-- The vendor's hardware; the software backend where it cannot be opened. -/
  | vendor
  /-- The software backend only. -/
  | software
deriving DecidableEq, Inhabited

/-- Which hardware is used. -/
structure HardwareSettings where
  backend : BackendKind := .vendor
  /-- The sensors that may be mocked. -/
  mockable : List SensorId := SensorId.mockable
  /-- The sensors that are mocked from the start. -/
  injectOnStart : List SensorId := []
deriving DecidableEq, Inhabited

/-- The settings of a broker. -/
structure Config where
  service : ServiceSettings := {}
  transport : TransportSettings := {}
  hardware : HardwareSettings := {}
deriving DecidableEq, Inhabited

end SensorBroker
