/-
# One configuration of a sensor for all its subscribers

A sensor samples at one period with one delay, whoever subscribes to it: at
the least period and with the least delay that any subscriber asked for. The
arbiter keeps what each running sensor was told, tells it anew only when that
changes, switches a sensor on for its first subscriber and off after its last.

When a backend refuses, the records are put back as they were and the request
fails; only the count of changes has moved on.

Key definitions: `Arbitration`, `Arbitration.effectivePeriod`,
`Arbitration.enable`, `Arbitration.disable`, `Arbitration.activeState`,
`Registry.merged`.
-/
import SensorBroker.Hardware.Connection
import SensorBroker.Service.Registry

namespace SensorBroker

/-- What a running sensor was told, and for whom. -/
structure ActiveState where
  /-- The period and delay it was told. -/
  merged : Request
  /-- The subscribers, by process. -/
  subscribers : List Pid
  /-- Whether it is switched on. -/
  isEnabled : Bool
  /-- The generation of the subscribers this was computed from. -/
  generation : Nat
deriving DecidableEq, Inhabited

/-- What a request to enable a sensor changed. -/
structure EnableOutcome where
  /-- The sensor was running before. -/
  wasRunning : Bool
  /-- The process had no subscription before. -/
  isNew : Bool
  /-- The sensor was told a period and delay. -/
  reprogrammed : Bool
deriving DecidableEq, Inhabited

/-- What a request to disable a sensor changed. -/
structure DisableOutcome where
  /-- What the process had asked for. -/
  request : Request
  /-- The sensor was switched off. -/
  switchedOff : Bool
  /-- The sensor was told a period and delay. -/
  reprogrammed : Bool
deriving DecidableEq, Inhabited

/-- The least of some values, or `default` where there are none. -/
def leastOf (default : Nanos) : List Nanos → Nanos
  | [] => default
  | x :: rest => rest.foldl min x

/-- The least period and the least delay that subscribers of a sensor asked
for. -/
def Registry.merged (r : Registry) (settings : ServiceSettings) (s : SensorId) : Request :=
  let requests := (r.subscriptionsOf s).values
  ⟨leastOf settings.defaultPeriod (requests.map Request.period),
    leastOf 0 (requests.map Request.delay)⟩

/-- The state of arbitration: the hardware, the records, and what each running
sensor was told. -/
structure Arbitration where
  settings : ServiceSettings
  hardware : Hardware
  registry : Registry
  active : Table SensorId ActiveState
deriving Inhabited

namespace Arbitration

/-- Arbitration over some hardware, without subscriptions. -/
def ofSettings (settings : ServiceSettings) (hardware : Hardware) : Arbitration :=
  ⟨settings, hardware, ∅, ∅⟩

/-- The period a request stands for. A request for period zero stands for the
default; a sensor nobody serves, a negative number and a delay of too many
periods are no requests. -/
def effectivePeriod (a : Arbitration) (s : SensorId) (request : Request) :
    Except ServiceError Nanos :=
  if !(s.isValid && a.hardware.has s) then .error (.invalidArgument (.unknownSensor s))
  else if request.period < 0 || request.delay < 0 then
    .error (.invalidArgument (.negative request.period request.delay))
  else
    let period := if request.period = 0 then a.settings.defaultPeriod else request.period
    if a.settings.maxEventCount < request.delay / period then
      .error (.invalidArgument (.tooManyEvents request.delay period a.settings.maxEventCount))
    else .ok period

/-- What a running sensor was told. -/
def programmed (a : Arbitration) (s : SensorId) : Option Request :=
  (a.active.get? s).map ActiveState.merged

/-- Whether a sensor is switched on. -/
def isRunning (a : Arbitration) (s : SensorId) : Bool :=
  (a.active.get? s).any ActiveState.isEnabled

/-- Asks the hardware to do something. -/
def perform (a : Arbitration) (c : DeviceCall) : Except ServiceError Unit × Arbitration :=
  match a.hardware.perform c with
  | (.ok _, hardware) => (.ok (), { a with hardware })
  | (.error e, hardware) => (.error (.hardware c.sensor e), { a with hardware })

/-- Tells a sensor the merged parameters of its subscribers, unless it was
told them last; says whether it was told. -/
def program (a : Arbitration) (s : SensorId) : Except ServiceError Bool × Arbitration :=
  let merged := a.registry.merged a.settings s
  if a.programmed s = some merged then (.ok false, a)
  else
    match a.perform (.setBatch s merged) with
    | (.ok _, a) => (.ok true, a)
    | (.error e, a) => (.error e, a)

/-- Notes that a sensor runs with the merged parameters of its subscribers. -/
def store (a : Arbitration) (s : SensorId) : Arbitration :=
  let state : ActiveState :=
    ⟨a.registry.merged a.settings s, a.registry.subscribers s, true, a.registry.generation s⟩
  { a with active := a.active.insert s state }

/-- Puts the records of a process and a sensor back. -/
def rollBack (a : Arbitration) (pid : Pid) (s : SensorId) (previous : Option Request) :
    Arbitration :=
  match previous with
  | some request => { a with registry := a.registry.put pid s request }
  | none => { a with registry := (a.registry.remove pid s).2 }

/-- Switches a sensor on, unless it runs. -/
def switchOn (a : Arbitration) (s : SensorId) : Except ServiceError Unit × Arbitration :=
  if a.isRunning s then (.ok (), a) else a.perform (.enable s)

/-- Subscribes a process to a sensor, or changes its subscription. -/
def enable (a : Arbitration) (pid : Pid) (s : SensorId) (request : Request) :
    Except ServiceError EnableOutcome × Arbitration :=
  match a.effectivePeriod s request with
  | .error e => (.error e, a)
  | .ok period =>
    let previous := a.registry.subscription pid s
    let wasRunning := a.isRunning s
    let a := { a with registry := a.registry.put pid s ⟨period, request.delay⟩ }
    match a.program s with
    | (.error e, a) => (.error e, a.rollBack pid s previous)
    | (.ok reprogrammed, a) =>
      match a.switchOn s with
      | (.error e, a) => (.error e, a.rollBack pid s previous)
      | (.ok _, a) => (.ok ⟨wasRunning, previous.isNone, reprogrammed⟩, a.store s)

/-- Switches off a sensor that nobody subscribes to any more, and forgets its
last event. -/
def switchOff (a : Arbitration) (s : SensorId) : Except ServiceError Unit × Arbitration :=
  match a.perform (.disable s) with
  | (.error e, a) => (.error e, a)
  | (.ok _, a) =>
    (.ok (), { a with active := a.active.erase s, registry := a.registry.clearEvent s })

/-- Ends the subscription of a process to a sensor. -/
def disable (a : Arbitration) (pid : Pid) (s : SensorId) :
    Except ServiceError DisableOutcome × Arbitration :=
  match a.registry.remove pid s with
  | (.error e, _) => (.error e, a)
  | (.ok request, registry) =>
    let a := { a with registry }
    if registry.isSubscribed s then
      match a.program s with
      | (.error e, a) => (.error e, a.rollBack pid s (some request))
      | (.ok reprogrammed, a) => (.ok ⟨request, false, reprogrammed⟩, a.store s)
    else
      match a.switchOff s with
      | (.error e, a) => (.error e, a.rollBack pid s (some request))
      | (.ok _, a) => (.ok ⟨request, true, false⟩, a)

/-- Sets the reporting mode of a sensor. -/
def setMode (a : Arbitration) (s : SensorId) (mode : Int32) :
    Except ServiceError Unit × Arbitration :=
  a.perform (.setMode s mode)

/-- Runs a command for a sensor. -/
def runCommand (a : Arbitration) (s : SensorId) (command : DeviceCommand) :
    Except ServiceError Unit × Arbitration :=
  a.perform (.command s command)

/-- What a running sensor stands at: as it was noted, or computed anew if its
subscribers have changed since. -/
def activeState (a : Arbitration) (s : SensorId) : Option ActiveState :=
  (a.active.get? s).map fun state =>
    if state.generation = a.registry.generation s then state
    else
      { state with
        merged := a.registry.merged a.settings s
        subscribers := a.registry.subscribers s
        generation := a.registry.generation s }

/-- The sensors that run, by id. -/
def running (a : Arbitration) : List SensorId :=
  a.active.keys

end Arbitration
end SensorBroker
