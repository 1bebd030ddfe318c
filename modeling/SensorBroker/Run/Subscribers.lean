/-
# A run with subscribers of its own

A broker can be run with subscribers in its own process. The software backend
stands in for the vendor's, each subscription has a client with a process id of
its own, and a client whose subscription is refused goes away again. As time
passes samples fall due, and what the broker passes on the clients read and
count. When the run ends the clients have stopped reading before the broker
stops.

Key definitions: `Subscriber`, `BrokerRun`, `BrokerRun.start`,
`BrokerRun.elapse`, `BrokerRun.finish`, `BrokerRun.simulate`.
-/
import SensorBroker.Channel.Client
import SensorBroker.CommandLine.Subscription
import SensorBroker.Hardware.Sampling
import SensorBroker.Run.Statistics
import SensorBroker.Service.Lifecycle

namespace SensorBroker

/-- A client within the process. -/
structure Subscriber where
  stats : SubscriberStats
  channel : ChannelId
  client : Client
deriving Inhabited

/-- A broker with clients within its process. -/
structure BrokerRun where
  broker : Broker
  subscribers : List Subscriber
  /-- How many sensors there were after the start. -/
  sensors : Nat
deriving Inhabited

/-- Counts a frame. One with a message that nobody knows counts only by its
size. -/
def SubscriberStats.count (s : SubscriberStats) (p : Packet) : SubscriberStats :=
  let s := { s with bytes := s.bytes + p.frameSize }
  match p.kind with
  | .ok .flushComplete => { s with flushes := s.flushes + 1 }
  | .ok _ => { s with events := s.events + 1 }
  | .error _ => s

/-- A client reads what has come. -/
def Subscriber.read (s : Subscriber) (channels : Channels) : Subscriber × Channels :=
  match channels.get? s.channel with
  | none => (s, channels)
  | some session =>
    let (ended, client, link) := s.client.gather session.link
    let stats := client.ready.foldl SubscriberStats.count s.stats
    ({ s with
        stats := { stats with hungUp := stats.hungUp || ended },
        client := { client with ready := [] } },
      channels.update s.channel fun session => { session with link })

namespace BrokerRun

/-- The process id of the first client. -/
def firstPid : Int := 10000

/-- The user that the clients run as. -/
def clientUid : Uid := 1000

/-- The client with a number. -/
def clientIdentity (n : Nat) : Identity :=
  ⟨Int32.ofInt (firstPid + n), clientUid, UInt64.ofNat (n + 1)⟩

/-- The hardware of a run: the software backend in every place. -/
def hardwareFor (config : Config) : Hardware :=
  .ofSettings config.hardware .software fun _ => .software

/-- Each client reads what has come. -/
def readEach : List Subscriber → Channels → List Subscriber × Channels
  | [], cs => ([], cs)
  | s :: rest, cs =>
    let (s, cs) := s.read cs
    let (rest, cs) := readEach rest cs
    (s :: rest, cs)

/-- What waits is dispatched, watchers and clients read. -/
def settle (r : BrokerRun) : BrokerRun :=
  let broker := r.broker.collect.drain.pollAll
  let (subscribers, channels) := readEach r.subscribers broker.channels
  { r with broker := { broker with channels }, subscribers }

/-- Adds the client with a number and its subscription. -/
def attach (r : BrokerRun) (n : Nat) (spec : SubscriptionSpec) : BrokerRun :=
  let who := clientIdentity n
  match r.broker.openDataChannel who with
  | (.error _, broker) => { r with broker }
  | (.ok id, broker) =>
    match broker.enable who spec.sensor spec.request with
    | (.ok _, broker) =>
      { r with
        broker
        subscribers := r.subscribers
          ++ [⟨{ pid := who.pid, sensor := spec.sensor }, id, .fresh broker.config.transport⟩] }
    | (.error _, broker) =>
      let leave (s : Session) : Session := { s with link := s.link.dropClient }
      { r with broker := { broker with channels := broker.channels.update id leave } }

/-- Adds a client for each subscription, from a number on. -/
def attachEach : Nat → List SubscriptionSpec → BrokerRun → BrokerRun
  | _, [], r => r
  | n, spec :: rest, r => attachEach (n + 1) rest (r.attach n spec).settle

/-- Starts a broker with a client for each subscription. -/
def start (config : Config) (specs : List SubscriptionSpec) : Except ServiceError BrokerRun :=
  match (Broker.ofConfig config (hardwareFor config) default true).start with
  | (.error e, _) => .error e
  | (.ok _, broker) => .ok (attachEach 0 specs ⟨broker, [], broker.hardware.sensors.length⟩)

/-- A span of time passes, from one count of nanoseconds since the start to
another. -/
def elapse (r : BrokerRun) (before now : Nat) : BrokerRun :=
  let b := r.broker
  { r with broker := b.setHardware (b.hardware.elapse before now) }.settle

/-- Ends a run that took so many nanoseconds. -/
def finish (r : BrokerRun) (duration : Nat) : RunStats :=
  let r := r.settle
  { duration
    sensors := r.sensors
    mocked := r.broker.hardware.mocks.keys.length
    subscribers := r.subscribers.map Subscriber.stats
    dispatch := r.broker.stop.summary }

/-- How many spans of so many nanoseconds pass one after the other. -/
def elapseSteps (step : Nat) : Nat → Nat → BrokerRun → BrokerRun
  | 0, _, r => r
  | n + 1, before, r => elapseSteps step n (before + step) (r.elapse before (before + step))

/-- The statistics of a run as they would be with a perfect clock. -/
def simulate (config : Config) (specs : List SubscriptionSpec) (duration : Nat) :
    Except ServiceError RunStats :=
  (start config specs).map fun r =>
    (elapseSteps shortestWait (duration / shortestWait) 0 r).finish duration

end BrokerRun
end SensorBroker
