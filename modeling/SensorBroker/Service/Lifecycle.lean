/-
# The end of clients and of the broker

The death of a process ends all it had: its snapshot, its subscriptions, its
channels, its records. A subscription that the hardware will not end stays,
and is named in the outcome. Deaths are announced by token, or seen by a
watcher: a data channel whose client is gone is the death of its process, a
socket channel whose client is gone is closed and nothing more.

Key definitions: `Broker.processDeath`, `Broker.clientDied`, `Broker.hangUp`,
`Broker.poll`, `Broker.pollAll`, `Broker.stop`.
-/
import SensorBroker.Service.Dispatch
import SensorBroker.Service.Requests

namespace SensorBroker
namespace Broker

/-- Ends the subscriptions of a process to each of some sensors. One that has
ended in the meantime counts as ended. -/
def releaseEach (pid : Pid) : List SensorId → Broker → BulkOutcome SensorId × Broker
  | [], b => (.empty, b)
  | s :: rest, b =>
    match b.arbitration.disable pid s with
    | (.ok disabled, a) =>
      let b := (b.setArbitration a).report pid s false disabled.request
      let (outcome, b) := releaseEach pid rest b
      (.done s ++ outcome, b)
    | (.error (.notSubscribed _ _), a) =>
      let (outcome, b) := releaseEach pid rest (b.setArbitration a)
      (.done s ++ outcome, b)
    | (.error e, a) =>
      let (outcome, b) := releaseEach pid rest (b.setArbitration a)
      (.failure s e ++ outcome, b)

/-- Drops the records of a process and closes its data channel. -/
def dropRecords (b : Broker) (pid : Pid) : Broker :=
  let (cleanup, r, cs) := b.registry.destroyClient b.channels pid
  let b := b.setRecords r cs
  match cleanup.channel with
  | some id => b.unwatch id
  | none => b

/-- Ends all that a process had. -/
def processDeath (b : Broker) (pid : Pid) : BulkOutcome SensorId × Broker :=
  let b := { b with suspension := (b.suspension.forget pid).2 }
  let (outcome, b) := releaseEach pid (b.registry.sensorsOf pid) b
  (outcome, (b.dropSocketChannel pid).dropRecords pid)

/-- The client with a token has died; a token that stands for nobody is passed
over. -/
def clientDied (b : Broker) (token : Token) : Option (BulkOutcome SensorId) × Broker :=
  match b.registry.dropToken token with
  | (none, _) => (none, b)
  | (some pid, r) =>
    let (outcome, b) := (b.setRegistry r).processDeath pid
    (some outcome, b)

/-- A watcher has seen that the client of a channel is gone. -/
def hangUp (b : Broker) (id : ChannelId) : Broker :=
  match b.channels.get? id with
  | none => b
  | some s =>
    if b.registry.channels.get? s.pid = some id then (b.processDeath s.pid).2
    else if b.directory.contains id then
      let (_, directory, channels) := b.directory.remove b.channels s.pid
      { b with directory, channels }
    else b

/-- Lets the watcher of a channel read what there is. What clients write is
read and not used. -/
def poll (b : Broker) (id : ChannelId) : Broker :=
  match b.watchers with
  | none => b
  | some ws =>
    let (_, status, ws, channels) := ws.poll b.channels id
    let b := { b with watchers := some ws, channels }
    if status = .hungUp then b.hangUp id else b

/-- Lets every watcher read, by channel. -/
def pollAll (b : Broker) : Broker :=
  match b.watchers with
  | none => b
  | some ws => ws.keys.foldl poll b

/-- Lets the watcher of a channel, which has waited in vain, write what the
channel has queued. -/
def idle (b : Broker) (id : ChannelId) : Broker :=
  match b.watchers with
  | none => b
  | some ws => { b with channels := ws.idle b.channels id }

/-- Disables a sensor for each of some processes, as far as that works. -/
def releaseSubscribers (s : SensorId) : List Pid → Arbitration → Arbitration
  | [], a => a
  | pid :: rest, a => releaseSubscribers s rest (a.disable pid s).2

/-- Disables each of some sensors for all its subscribers, as far as that
works. -/
def releaseSensors : List SensorId → Arbitration → Arbitration
  | [], a => a
  | s :: rest, a => releaseSensors rest (releaseSubscribers s (a.registry.subscribers s) a)

/-- Ends the broker: watching ends, socket channels close, sensors go off, the
hardware is closed, and events that still wait are passed on. -/
def stop (b : Broker) : Broker :=
  let (directory, channels) := b.directory.closeAll b.channels
  let b := { b with watchers := none, directory, channels }
  let b := b.setArbitration (releaseSensors b.arbitration.running b.arbitration)
  let b := (b.setHardware b.hardware.disconnect).collect
  { b.drain with accepting := false }

end Broker
end SensorBroker
