/-
# From the hardware to the clients

Events leave the queue one at a time. A sample is kept as the last of its
sensor and goes, framed once, to the data channel of every subscriber, in
order of process; the end of a flush goes to the channel that the oldest
request for it named. A channel that fails for good is closed and, if it is
still its process's, taken away; the other channels are served all the same.

Key definitions: `Broker.sendOn`, `Broker.deliverSample`,
`Broker.deliverFlush`, `Broker.route`, `Broker.dispatch`, `Broker.drain`.
-/
import SensorBroker.Service.Broker

namespace SensorBroker
namespace Broker

/-- The frame of an event, if it fits. -/
def frame? (b : Broker) (m : Message) (e : Event) : Option Bytes :=
  ((Packet.ofRecord .event m e).frame? b.config.transport.maxPacketSize).toOption

/-- Sends a frame on a data channel and says whether it was taken; a channel
that fails for good is given up. -/
def sendOn (b : Broker) (frame : Bytes) (id : ChannelId) : Bool × Broker :=
  match b.channels.sendFrame id frame with
  | (.ok _, cs) => (true, { b with channels := cs })
  | (.error e, cs) =>
    if e.isFatal then
      let (_, r, cs) := b.registry.releaseIfCurrent cs id
      (false, b.setRecords r cs)
    else (false, { b with channels := cs })

/-- Sends a frame on each of some data channels; says how many took it and how
many failed. -/
def sendEach (frame : Bytes) : List ChannelId → Broker → Nat × Nat × Broker
  | [], b => (0, 0, b)
  | id :: rest, b =>
    let (taken, b) := b.sendOn frame id
    let (fanOut, errors, b) := sendEach frame rest b
    if taken then (fanOut + 1, errors, b) else (fanOut, errors + 1, b)

/-- Passes a sample on to the subscribers of its sensor. -/
def deliverSample (b : Broker) (e : Event) : Broker :=
  let b := b.setRegistry (b.registry.storeEvent e)
  match b.frame? .sensorEvent e with
  | none => b
  | some frame =>
    let (fanOut, errors, b) := sendEach frame (b.registry.activeChannels e.sensor) b
    { b with totals := b.totals.event e.sensor fanOut errors }

/-- Passes the end of a flush on to whoever asked for it. -/
def deliverFlush (b : Broker) (e : Event) : Broker :=
  match b.flushes.complete e.sensor with
  | (none, _) => { b with totals := b.totals.flush false }
  | (some entry, flushes) =>
    let b := { b with flushes }
    match b.frame? .flushComplete e with
    | none => { b with totals := b.totals.flush false }
    | some frame =>
      let (taken, b) := b.sendOn frame entry.channel
      { b with totals := b.totals.flush taken }

/-- Passes an event on. -/
def route (b : Broker) (e : Event) : Broker :=
  if e.isFlushComplete then b.deliverFlush e else b.deliverSample e

/-- Passes the oldest event of the queue on. -/
def dispatch (b : Broker) : Broker :=
  match b.queue with
  | [] => b
  | e :: rest => { b with queue := rest }.route e

/-- Passes every event of the queue on. -/
def drain (b : Broker) : Broker :=
  b.queue.foldl route { b with queue := [] }

end Broker
end SensorBroker
