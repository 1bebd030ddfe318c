/-
# The state of a broker

A broker joins the hardware, the records of its clients and their channels.
Events that the hardware raises wait in a queue until they are dispatched; a
sample that finds the queue full is dropped and counted, the end of a flush
always waits, for losing one would give every later one to the wrong client.
Where channels are watched, each has a watcher.

Listeners are told of every change of a subscription over their socket
channels (`Broker.report`).

Key definitions: `Broker`, `Broker.ofConfig`, `Broker.start`, `Broker.offer`,
`Broker.collect`, `Broker.report`.
-/
import SensorBroker.Channel.Directory
import SensorBroker.Channel.Watcher
import SensorBroker.Service.FlushQueue
import SensorBroker.Service.Suspension
import SensorBroker.Stats.Dispatch

namespace SensorBroker

/-- A broker. -/
structure Broker where
  config : Config
  /-- What the sockets of its channels take. -/
  rule : SocketRule
  /-- Hardware, records, and who is suspended. -/
  suspension : Suspension
  flushes : FlushQueues
  /-- Every channel ever opened. -/
  channels : Channels
  /-- The socket channels. -/
  directory : Directory
  /-- The watchers, where channels are watched. -/
  watchers : Option Watchers
  /-- The events that wait to be dispatched, oldest first. -/
  queue : List Event
  /-- How many samples found the queue full. -/
  dropped : Nat
  totals : DispatchTotals
  /-- Whether events are still taken. -/
  accepting : Bool
deriving Inhabited

namespace Broker

/-- A broker over hardware that is not opened yet. -/
def ofConfig (config : Config) (hardware : Hardware) (rule : SocketRule) (watching : Bool) :
    Broker where
  config := config
  rule := rule
  suspension := .ofArbitration (.ofSettings config.service hardware)
  flushes := ∅
  channels := ∅
  directory := ∅
  watchers := if watching then some ∅ else none
  queue := []
  dropped := 0
  totals := {}
  accepting := true

/-! ## Parts -/

/-- The state of arbitration. -/
def arbitration (b : Broker) : Arbitration :=
  b.suspension.arbitration

/-- The records of the clients. -/
def registry (b : Broker) : Registry :=
  b.arbitration.registry

/-- The connection to the hardware. -/
def hardware (b : Broker) : Hardware :=
  b.arbitration.hardware

/-- Replaces the state of arbitration. -/
def setArbitration (b : Broker) (a : Arbitration) : Broker :=
  { b with suspension := { b.suspension with arbitration := a } }

/-- Replaces the records of the clients. -/
def setRegistry (b : Broker) (r : Registry) : Broker :=
  b.setArbitration { b.arbitration with registry := r }

/-- Replaces the connection to the hardware. -/
def setHardware (b : Broker) (h : Hardware) : Broker :=
  b.setArbitration { b.arbitration with hardware := h }

/-- Replaces the records of the clients and the channels. -/
def setRecords (b : Broker) (r : Registry) (cs : Channels) : Broker :=
  { b with channels := cs }.setRegistry r

@[simp] theorem hardware_setHardware (b : Broker) (h : Hardware) :
    (b.setHardware h).hardware = h := rfl

/-! ## Events -/

/-- The most events that may wait. -/
def capacity (b : Broker) : Nat :=
  b.config.service.eventQueueCapacity.toNat

/-- Queues an event. -/
def offer (b : Broker) (e : Event) : Broker :=
  if !b.accepting then b
  else if e.isFlushComplete || b.queue.length < b.capacity then { b with queue := b.queue ++ [e] }
  else { b with dropped := b.dropped + 1 }

/-- Queues the events that the hardware has raised. -/
def collect (b : Broker) : Broker :=
  let (raised, hardware) := b.hardware.collect
  raised.foldl offer (b.setHardware hardware)

/-- A backend raises an event. -/
def emit (b : Broker) (slot : Slot) (e : Event) : Broker :=
  (b.setHardware (b.hardware.emit slot e)).collect

/-- What is reported of dispatching. -/
def summary (b : Broker) : DispatchSummary :=
  ⟨b.totals, b.dropped⟩

/-! ## Start -/

/-- Mocks each of some sensors; those that cannot be are passed over. -/
def injectEach : List SensorId → Hardware → Hardware
  | [], h => h
  | s :: rest, h => injectEach rest (h.inject s).2

/-- Opens the hardware and mocks what is to be mocked from the start. -/
def start (b : Broker) : Except ServiceError Unit × Broker :=
  match b.hardware.connect with
  | (.error e, h) => (.error (.ofHardware e), b.setHardware h)
  | (.ok _, h) => (.ok (), b.setHardware (injectEach b.config.hardware.injectOnStart h))

/-! ## Watching -/

/-- Watches a channel from now on, where channels are watched. -/
def watch (b : Broker) (id : ChannelId) : Broker :=
  { b with watchers := b.watchers.map fun ws => ws.register b.config.transport id }

/-- Watches a channel no more. -/
def unwatch (b : Broker) (id : ChannelId) : Broker :=
  { b with watchers := b.watchers.map fun ws => ws.erase id }

/-! ## Reports -/

/-- The socket channels of the listeners, by process. -/
def listenerChannels (b : Broker) : List ChannelId :=
  b.registry.listeners.keys.filterMap b.directory.byPid.get?

/-- Tells the listeners of a subscription that now stands or has ended. -/
def report (b : Broker) (pid : Pid) (s : SensorId) (isActive : Bool) (request : Request) :
    Broker :=
  match b.listenerChannels with
  | [] => b
  | targets =>
    let report : SubscriptionReport := ⟨pid, s, isActive, request.period, request.delay⟩
    let packet := Packet.ofRecord .subscriptionReport .activeInfo report
    { b with
      channels :=
        (b.directory.multicast b.channels targets packet b.config.transport.maxPacketSize).2 }

/-- Tells the listeners that a subscription stands, if it does. -/
def reportActive (b : Broker) (pid : Pid) (s : SensorId) : Broker :=
  match b.registry.subscription pid s with
  | some request => b.report pid s true request
  | none => b

end Broker
end SensorBroker
