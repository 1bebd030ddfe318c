/-
# Who subscribes to what

The registry holds, for each sensor, the processes that subscribe to it with
what each asked for, and what hangs on a process: its data channel, its
identity, its death token, whether it listens to subscription changes. It also
keeps the last event of each sensor. Every change of a sensor's subscribers
raises the sensor's generation, so that whoever computed something from them
can tell that it is out of date.

A process that loses its last subscription can lose its data channel with it.

Key definitions: `Registry`, `Registry.subscription`, `Registry.add`,
`Registry.update`, `Registry.remove`, `Registry.subscribers`,
`Registry.sensorsOf`, `Registry.activeChannels`, `Registry.destroyClient`.
Key theorems: `Registry.subscription_put_self`, `Registry.subscription_put_of_ne`.
-/
import SensorBroker.Channel.Channels
import SensorBroker.Service.Error

namespace SensorBroker

/-- Who a process is: what it said when it took its data channel, or makes a
request. -/
structure Identity where
  pid : Pid
  uid : Uid
  token : Token
deriving DecidableEq, Inhabited

/-- The records of the clients. -/
structure Registry where
  /-- For each sensor, what each subscriber asked for; a sensor without any may
  have an empty table here, or none (`Registry.drop`). -/
  subscriptions : Table SensorId (Table Pid Request)
  /-- How often the subscribers of a sensor have changed. -/
  generations : Table SensorId Nat
  /-- The data channel of a process. -/
  channels : Table Pid ChannelId
  apps : Table Pid Identity
  /-- The process a death token stands for. -/
  tokens : Table Token Pid
  /-- The processes that listen to subscription changes. -/
  listeners : Table Pid Unit
  /-- The last event of a sensor. -/
  lastEvents : Table SensorId Event
deriving DecidableEq, Inhabited

namespace Registry

/-- No record. -/
def empty : Registry := ⟨∅, ∅, ∅, ∅, ∅, ∅, ∅⟩

instance : EmptyCollection Registry := ⟨empty⟩

/-! ## Subscriptions -/

/-- What each subscriber of a sensor asked for, by process. -/
def subscriptionsOf (r : Registry) (s : SensorId) : Table Pid Request :=
  r.subscriptions.getD s ∅

/-- What a process asked of a sensor. -/
def subscription (r : Registry) (pid : Pid) (s : SensorId) : Option Request :=
  (r.subscriptionsOf s).get? pid

/-- The subscribers of a sensor, by process. -/
def subscribers (r : Registry) (s : SensorId) : List Pid :=
  (r.subscriptionsOf s).keys

/-- Whether a sensor has a subscriber. -/
def isSubscribed (r : Registry) (s : SensorId) : Bool :=
  !(r.subscriptionsOf s).isEmpty

/-- How often the subscribers of a sensor have changed. -/
def generation (r : Registry) (s : SensorId) : Nat :=
  r.generations.getD s 0

/-- The sensors a process subscribes to, by id. -/
def sensorsOf (r : Registry) (pid : Pid) : List SensorId :=
  (r.subscriptions.filter fun _ t => t.contains pid).keys

/-- The subscriptions of a process, by sensor. -/
def activeInfo (r : Registry) (pid : Pid) : List ActiveInfo :=
  r.subscriptions.entries.filterMap fun e =>
    (e.2.get? pid).map fun request => ⟨pid, e.1, request.period, request.delay⟩

/-- Replaces the subscribers of a sensor and counts the change. -/
def setSubscribers (r : Registry) (s : SensorId) (t : Table Pid Request) : Registry :=
  { r with
    subscriptions := r.subscriptions.insert s t
    generations := r.generations.insert s (r.generation s + 1) }

/-- Records what a process asks of a sensor. -/
def put (r : Registry) (pid : Pid) (s : SensorId) (request : Request) : Registry :=
  r.setSubscribers s ((r.subscriptionsOf s).insert pid request)

/-- Drops what a process asked of a sensor. A sensor that loses its last
subscriber keeps a table, an empty one. Its entry could be taken out as well:
nothing that is asked of the records tells the two apart. -/
def drop (r : Registry) (pid : Pid) (s : SensorId) : Registry :=
  r.setSubscribers s ((r.subscriptionsOf s).erase pid)

/-- Records a new subscription. -/
def add (r : Registry) (pid : Pid) (s : SensorId) (request : Request) :
    Except ServiceError Unit × Registry :=
  match r.subscription pid s with
  | some _ => (.error (.alreadySubscribed pid s), r)
  | none => (.ok (), r.put pid s request)

/-- Replaces a subscription; answers what it was. -/
def update (r : Registry) (pid : Pid) (s : SensorId) (request : Request) :
    Except ServiceError Request × Registry :=
  match r.subscription pid s with
  | some old => (.ok old, r.put pid s request)
  | none => (.error (.notSubscribed pid s), r)

/-- Ends a subscription; answers what it was. -/
def remove (r : Registry) (pid : Pid) (s : SensorId) : Except ServiceError Request × Registry :=
  match r.subscription pid s with
  | some old => (.ok old, r.drop pid s)
  | none => (.error (.notSubscribed pid s), r)

/-- Ends a subscription and, where it was the last of the process, releases
and closes the data channel of the process. -/
def removeAndRelease (r : Registry) (cs : Channels) (pid : Pid) (s : SensorId) :
    Except ServiceError (Request × Option ChannelId) × Registry × Channels :=
  match r.remove pid s with
  | (.error e, r) => (.error e, r, cs)
  | (.ok old, r) =>
    match r.channels.get? pid with
    | some id =>
      if (r.sensorsOf pid).isEmpty then
        (.ok (old, some id), { r with channels := r.channels.erase pid }, cs.close id)
      else (.ok (old, none), r, cs)
    | none => (.ok (old, none), r, cs)

theorem subscription_put_self (r : Registry) (pid : Pid) (s : SensorId) (request : Request) :
    (r.put pid s request).subscription pid s = some request := by
  simp [subscription, subscriptionsOf, put, setSubscribers, Table.getD]

theorem subscription_put_of_ne (r : Registry) {pid other : Pid} {s s' : SensorId}
    (request : Request) (h : other ≠ pid ∨ s' ≠ s) :
    (r.put pid s request).subscription other s' = r.subscription other s' := by
  by_cases hs : s' = s
  · subst hs
    have hp : other ≠ pid := h.resolve_right (fun h => h rfl)
    simp [subscription, subscriptionsOf, put, setSubscribers, Table.getD,
      Table.get?_insert_of_ne _ _ hp]
  · simp [subscription, subscriptionsOf, put, setSubscribers, Table.getD,
      Table.get?_insert_of_ne _ _ hs]

theorem subscription_drop_self (r : Registry) (pid : Pid) (s : SensorId) :
    (r.drop pid s).subscription pid s = none := by
  simp [subscription, subscriptionsOf, drop, setSubscribers, Table.getD]

/-! ## Data channels -/

/-- Gives a process a data channel; answers the one it replaces. -/
def setChannel (r : Registry) (pid : Pid) (id : ChannelId) : Option ChannelId × Registry :=
  (r.channels.get? pid, { r with channels := r.channels.insert pid id })

/-- Takes the data channel of a process away and closes it. -/
def destroyChannel (r : Registry) (cs : Channels) (pid : Pid) :
    Option ChannelId × Registry × Channels :=
  match r.channels.get? pid with
  | none => (none, r, cs)
  | some id => (some id, { r with channels := r.channels.erase pid }, cs.close id)

/-- Closes a channel and, if it is still the data channel of its process,
takes it away; says whether it was. -/
def releaseIfCurrent (r : Registry) (cs : Channels) (id : ChannelId) :
    Bool × Registry × Channels :=
  match cs.get? id with
  | none => (false, r, cs)
  | some s =>
    if r.channels.get? s.pid = some id then
      (true, { r with channels := r.channels.erase s.pid }, cs.close id)
    else (false, r, cs.close id)

/-- The data channels of the subscribers of a sensor, by process. -/
def activeChannels (r : Registry) (s : SensorId) : List ChannelId :=
  (r.subscribers s).filterMap r.channels.get?

/-! ## Identities and tokens -/

/-- Records who a process is, and its death token. -/
def setApp (r : Registry) (info : Identity) : Registry :=
  { r with
    tokens := r.tokens.insert info.token info.pid
    apps := r.apps.insert info.pid info }

/-- Records which process a death token stands for. -/
def setToken (r : Registry) (token : Token) (pid : Pid) : Registry :=
  { r with tokens := r.tokens.insert token pid }

/-- Forgets a death token; answers the process it stood for. -/
def dropToken (r : Registry) (token : Token) : Option Pid × Registry :=
  (r.tokens.get? token, { r with tokens := r.tokens.erase token })

/-! ## Listeners -/

/-- Adds a listener; says whether it is new. -/
def addListener (r : Registry) (pid : Pid) : Bool × Registry :=
  (!r.listeners.contains pid, { r with listeners := r.listeners.insert pid () })

/-- Takes a listener away; says whether it was one. -/
def dropListener (r : Registry) (pid : Pid) : Bool × Registry :=
  (r.listeners.contains pid, { r with listeners := r.listeners.erase pid })

/-! ## Last events -/

/-- Keeps an event as the last of its sensor. -/
def storeEvent (r : Registry) (e : Event) : Registry :=
  { r with lastEvents := r.lastEvents.insert e.sensor e }

/-- Forgets the last event of a sensor. -/
def clearEvent (r : Registry) (s : SensorId) : Registry :=
  { r with lastEvents := r.lastEvents.erase s }

/-! ## The end of a process -/

/-- What was dropped with a process. -/
structure Cleanup where
  channel : Option ChannelId
  app : Option Identity
  wasListener : Bool
deriving DecidableEq, Inhabited

/-- Drops every record of a process but its subscriptions, and closes its data
channel. -/
def destroyClient (r : Registry) (cs : Channels) (pid : Pid) : Cleanup × Registry × Channels :=
  let (channel, r, cs) := r.destroyChannel cs pid
  (⟨channel, r.apps.get? pid, r.listeners.contains pid⟩,
    { r with
      tokens := r.tokens.filter fun _ owner => owner ≠ pid
      apps := r.apps.erase pid
      listeners := r.listeners.erase pid },
    cs)

end Registry
end SensorBroker
