/-
# What clients ask of a broker

Every request names its caller; a negative process id is refused first. A
request that fails changes no subscription.

A process that joins a running sensor gets a flush of its own, so that it knows
where its samples begin, and the last event of a sensor that reports only
changes. A subscription of a suspended process is in its snapshot only, so
disabling it takes it from there.

Key definitions: `Broker.enable`, `Broker.disableFor`, `Broker.flush`,
`Broker.setMode`, `Broker.openDataChannel`, `Broker.closeDataChannel`,
`Broker.openSocketChannel`, `Broker.closeSocketChannel`, `Broker.suspend`,
`Broker.resume`, `Broker.inject`, `Broker.withdraw`.
-/
import SensorBroker.Service.Broker

namespace SensorBroker
namespace Broker

/-- Does something for a process whose id can be one. -/
def forPid {α : Type} (b : Broker) (pid : Pid) (f : Except ServiceError α × Broker) :
    Except ServiceError α × Broker :=
  if pid < 0 then (.error (.invalidPid pid), b) else f

/-! ## Subscriptions -/

/-- Flushes a sensor for a process; the end of it goes to a channel. -/
def requestFlush (b : Broker) (s : SensorId) (pid : Pid) (channel : ChannelId) (isFirst : Bool) :
    Except ServiceError Unit × Broker :=
  let (result, flushes, a) := b.flushes.request b.arbitration s pid channel isFirst
  (result, ({ b with flushes }.setArbitration a).collect)

/-- Flushes a sensor for a process that has just joined it, if it has a data
channel. -/
def flushOnJoin (b : Broker) (pid : Pid) (s : SensorId) : Broker :=
  match b.registry.channels.get? pid with
  | some channel => (b.requestFlush s pid channel true).2
  | none => b

/-- Whether a sensor reports only changes. -/
def isOnChange (b : Broker) (s : SensorId) : Bool :=
  b.hardware.sensors.any fun d => d.sensor = s && d.isOnChange

/-- Sends a process the last event of a sensor that reports only changes. -/
def replay (b : Broker) (pid : Pid) (s : SensorId) : Broker :=
  if b.isOnChange s then
    match b.registry.lastEvents.get? s, b.registry.channels.get? pid with
    | some e, some channel =>
      { b with channels := (b.channels.send channel (.ofRecord .event .sensorEvent e)).2 }
    | _, _ => b
  else b

/-- Subscribes the caller to a sensor, or changes its subscription. -/
def enable (b : Broker) (caller : Identity) (s : SensorId) (request : Request) :
    Except ServiceError Unit × Broker :=
  b.forPid caller.pid <|
    match b.arbitration.enable caller.pid s request with
    | (.error e, a) => (.error e, b.setArbitration a)
    | (.ok outcome, a) =>
      let b := b.setArbitration a
      let b :=
        if outcome.wasRunning && outcome.isNew then
          (b.flushOnJoin caller.pid s).replay caller.pid s
        else b
      (.ok (), b.reportActive caller.pid s)

/-- Ends the subscription of a process to a sensor, be it live or waiting to be
resumed. -/
def disableFor (b : Broker) (pid : Pid) (s : SensorId) : Except ServiceError Unit × Broker :=
  b.forPid pid <|
    if !s.isValid then (.error (.invalidArgument (.invalidSensor s)), b)
    else
      match b.suspension.discard pid s with
      | (some saved, suspension) => (.ok (), { b with suspension }.report pid s false saved)
      | (none, suspension) =>
        let b := { b with suspension }
        match b.arbitration.disable pid s with
        | (.ok outcome, a) => (.ok (), (b.setArbitration a).report pid s false outcome.request)
        | (.error e, a) => (.error e, b.setArbitration a)

/-- Ends the caller's subscription to a sensor. -/
def disable (b : Broker) (caller : Identity) (s : SensorId) : Except ServiceError Unit × Broker :=
  b.disableFor caller.pid s

/-- Sets the reporting mode of a sensor. -/
def setMode (b : Broker) (caller : Identity) (s : SensorId) (mode : Int32) :
    Except ServiceError Unit × Broker :=
  b.forPid caller.pid <|
    if b.hardware.has s then
      let (result, a) := b.arbitration.setMode s mode
      (result, b.setArbitration a)
    else (.error (.invalidArgument (.unknownSensor s)), b)

/-- Flushes a sensor for a subscriber; the end of it arrives on the caller's
data channel. -/
def flush (b : Broker) (caller : Identity) (s : SensorId) : Except ServiceError Unit × Broker :=
  b.forPid caller.pid <|
    if (b.registry.subscription caller.pid s).isNone then
      (.error (.notSubscribed caller.pid s), b)
    else
      match b.registry.channels.get? caller.pid with
      | none => (.error (.channel caller.pid "no data channel"), b)
      | some channel => b.requestFlush s caller.pid channel false

/-- The live subscriptions of a process. -/
def activeInfo (b : Broker) (pid : Pid) : Except ServiceError (List ActiveInfo) :=
  if pid < 0 then .error (.invalidPid pid) else .ok (b.registry.activeInfo pid)

/-! ## Channels -/

/-- Closes a channel that was replaced or taken away. -/
def retire (b : Broker) (id : ChannelId) : Broker :=
  let b := b.unwatch id
  { b with channels := b.channels.close id }

/-- Gives the caller a data channel, in the place of the one it has. -/
def openDataChannel (b : Broker) (caller : Identity) : Except ServiceError ChannelId × Broker :=
  b.forPid caller.pid <|
    let (id, cs) := b.channels.add caller.pid caller.uid 0 b.config.transport b.rule
    let (old, r) := (b.registry.setApp caller).setChannel caller.pid id
    let b := b.setRecords r (cs.bind id)
    let b := match old with
      | some old => b.retire old
      | none => b
    (.ok id, b.watch id)

/-- Closes the caller's data channel and forgets its death token. -/
def closeDataChannel (b : Broker) (caller : Identity) : Except ServiceError Unit × Broker :=
  b.forPid caller.pid <|
    match b.registry.destroyChannel b.channels caller.pid with
    | (none, _, _) => (.error (.channel caller.pid "no data channel"), b)
    | (some id, r, cs) => (.ok (), (b.setRecords (r.dropToken caller.token).2 cs).unwatch id)

/-- Gives the caller a socket channel, in the place of the one it has. -/
def openSocketChannel (b : Broker) (caller : Identity) : Except ServiceError ChannelId × Broker :=
  b.forPid caller.pid <|
    let b := match b.directory.byPid.get? caller.pid with
      | some old => b.unwatch old
      | none => b
    let (id, directory, channels) :=
      b.directory.add b.channels caller.pid caller.uid 0 b.config.transport b.rule
    let b := { b with directory, channels }
    (.ok id, (b.setRegistry (b.registry.setToken caller.token caller.pid)).watch id)

/-- Takes the socket channel of a process away, if it has one. -/
def dropSocketChannel (b : Broker) (pid : Pid) : Broker :=
  let (id, directory, channels) := b.directory.remove b.channels pid
  let b := { b with directory, channels }
  match id with
  | some id => b.unwatch id
  | none => b

/-- Closes the caller's socket channel; to have none is no error. -/
def closeSocketChannel (b : Broker) (caller : Identity) : Except ServiceError Unit × Broker :=
  b.forPid caller.pid (.ok (), b.dropSocketChannel caller.pid)

/-! ## Suspending and resuming -/

/-- Tells the listeners that subscriptions have ended which are in a
snapshot. -/
def reportSuspended (pid : Pid) (saved : Snapshot) : List SensorId → Broker → Broker
  | [], b => b
  | s :: rest, b =>
    reportSuspended pid saved rest
      (match saved.get? s with
      | some request => b.report pid s false request
      | none => b)

/-- Suspends a process. -/
def suspend (b : Broker) (pid : Pid) :
    Except ServiceError (BulkOutcome SensorId) × Broker :=
  b.forPid pid <|
    let (outcome, suspension) := b.suspension.suspend pid
    let saved := suspension.snapshots.getD pid ∅
    (.ok outcome, reportSuspended pid saved outcome.succeeded { b with suspension })

/-- Resumes a process. -/
def resume (b : Broker) (pid : Pid) :
    Except ServiceError (BulkOutcome SensorId) × Broker :=
  b.forPid pid <|
    match b.suspension.resume pid with
    | (.error e, suspension) => (.error e, { b with suspension })
    | (.ok outcome, suspension) =>
      (.ok outcome,
        outcome.succeeded.foldl (fun b s => b.reportActive pid s) { b with suspension })

/-- Resumes every suspended process. Listeners are not told. -/
def resumeAll (b : Broker) : BulkOutcome (Pid × SensorId) × Broker :=
  let (outcome, suspension) := b.suspension.resumeAll
  (outcome, { b with suspension })

/-! ## Mocks -/

/-- Mocks a sensor. -/
def inject (b : Broker) (s : SensorId) : Except ServiceError Unit × Broker :=
  match b.hardware.inject s with
  | (.ok _, h) => (.ok (), b.setHardware h)
  | (.error e, h) => (.error (.connection e), b.setHardware h)

/-- Ends the subscriptions of some processes to a sensor, as far as that
works. -/
def disableEach (s : SensorId) : List Pid → Broker → Broker
  | [], b => b
  | pid :: rest, b => disableEach s rest (b.disableFor pid s).2

/-- Ends the mock of a sensor, after the subscriptions to it. -/
def withdraw (b : Broker) (s : SensorId) : Except ServiceError Unit × Broker :=
  if b.hardware.isMocked s then
    let b := disableEach s (b.registry.subscribers s) b
    match b.hardware.withdraw s with
    | (.ok _, h) => (.ok (), b.setHardware h)
    | (.error e, h) => (.error (.connection e), b.setHardware h)
  else (.error (.connection (.mockNotFound s)), b)

/-! ## Listening -/

/-- Tells the caller of changes of subscriptions from now on. -/
def listen (b : Broker) (caller : Identity) : Except ServiceError Unit × Broker :=
  b.forPid caller.pid (.ok (), b.setRegistry (b.registry.addListener caller.pid).2)

/-- Tells the caller of changes of subscriptions no more. -/
def unlisten (b : Broker) (caller : Identity) : Except ServiceError Unit × Broker :=
  b.forPid caller.pid (.ok (), b.setRegistry (b.registry.dropListener caller.pid).2)

end Broker
end SensorBroker
