/-
# What can go wrong with a request to the broker

Key definitions: `ArgumentFlaw`, `ServiceError`, `ServiceError.message`,
`BulkOutcome`.
-/
import SensorBroker.Channel.Error
import SensorBroker.Hardware.Error

namespace SensorBroker

/-- What is wrong with an argument. -/
inductive ArgumentFlaw
  /-- No backend serves the sensor. -/
  | unknownSensor (sensor : SensorId)
  /-- The number is no sensor's. -/
  | invalidSensor (sensor : SensorId)
  /-- The period or the delay is below zero. -/
  | negative (period delay : Nanos)
  /-- More samples would have to wait in the hardware than may. -/
  | tooManyEvents (delay period : Nanos) (max : Int64)
deriving DecidableEq, Inhabited

/-- The wording of a flaw. -/
def ArgumentFlaw.message : ArgumentFlaw → String
  | .unknownSensor s => "unknown sensor " ++ s.text
  | .invalidSensor s => "invalid sensor " ++ s.text
  | .negative period delay =>
    "negative period " ++ toString period.toInt ++ " or delay " ++ toString delay.toInt
  | .tooManyEvents delay period max =>
    "delay " ++ toString delay.toInt ++ " / period " ++ toString period.toInt ++ " exceeds "
      ++ toString max.toInt ++ " buffered events"

/-- Why the broker did not do what it was asked. -/
inductive ServiceError
  /-- An argument is not allowed; nothing was changed. -/
  | invalidArgument (flaw : ArgumentFlaw)
  /-- The number is no process id. -/
  | invalidPid (pid : Pid)
  | notSubscribed (pid : Pid) (sensor : SensorId)
  | alreadySubscribed (pid : Pid) (sensor : SensorId)
  /-- The process has no snapshot. -/
  | notSuspended (pid : Pid)
  /-- A backend failed; the records were put back. -/
  | hardware (sensor : SensorId) (cause : HardwareError)
  /-- The process has no channel of use. -/
  | channel (pid : Pid) (detail : String)
  /-- A header declared more than a frame may carry. -/
  | corruption (declared max : UInt32)
  /-- The connection to the hardware failed. -/
  | connection (cause : HardwareError)
  /-- A channel failed. -/
  | transport (cause : ChannelError)
  | io (detail : String)
deriving DecidableEq, Inhabited

namespace ServiceError

/-- The short name of an error. -/
def kind : ServiceError → String
  | .invalidArgument _ => "InvalidArgument"
  | .invalidPid _ => "InvalidPid"
  | .notSubscribed .. => "NotSubscribed"
  | .alreadySubscribed .. => "AlreadySubscribed"
  | .notSuspended _ => "NotSuspended"
  | .hardware .. => "HardwareError"
  | .channel .. => "ChannelError"
  | .corruption .. => "ProtocolCorruption"
  | .connection _ => "Hdi"
  | .transport cause => cause.kind
  | .io _ => "Io"

/-- The wording of an error. -/
def message : ServiceError → String
  | .invalidArgument flaw => "invalid argument: " ++ flaw.message
  | .invalidPid pid => "invalid pid " ++ toString pid.toInt
  | .notSubscribed pid sensor =>
    "pid " ++ toString pid.toInt ++ " is not subscribed to sensor " ++ sensor.text
  | .alreadySubscribed pid sensor =>
    "pid " ++ toString pid.toInt ++ " is already subscribed to sensor " ++ sensor.text
  | .notSuspended pid => "pid " ++ toString pid.toInt ++ " is not suspended"
  | .hardware sensor cause =>
    "hardware error on sensor " ++ sensor.text ++ ": " ++ cause.message
  | .channel pid detail => "channel error for pid " ++ toString pid.toInt ++ ": " ++ detail
  | .corruption declared max => (ChannelError.corruption declared max).message
  | .connection cause => cause.message
  | .transport cause => cause.message
  | .io detail => "io error: " ++ detail

/-- A failure of the hardware, as the broker reports it: a sensor that nobody
has was a bad argument. -/
def ofHardware : HardwareError → ServiceError
  | .sensorNotFound s => .invalidArgument (.unknownSensor s)
  | e => .connection e

/-- A failure of a channel, as the broker reports it. -/
def ofChannel : ChannelError → ServiceError
  | .corruption declared max => .corruption declared max
  | e => .transport e

end ServiceError

/-- What came of an operation on many items: the items it was done for, in
order, and those it failed for, each with its error. -/
structure BulkOutcome (α : Type) where
  succeeded : List α
  failed : List (α × ServiceError)
deriving DecidableEq, Inhabited

namespace BulkOutcome

variable {α : Type}

/-- Nothing was to be done. -/
def empty : BulkOutcome α := ⟨[], []⟩

/-- Whether no item failed. -/
def isComplete (o : BulkOutcome α) : Bool :=
  o.failed.isEmpty

/-- The items that failed. -/
def failedItems (o : BulkOutcome α) : List α :=
  o.failed.map Prod.fst

/-- One outcome and then another. -/
def append (o p : BulkOutcome α) : BulkOutcome α :=
  ⟨o.succeeded ++ p.succeeded, o.failed ++ p.failed⟩

instance : Append (BulkOutcome α) := ⟨append⟩

/-- The item was done. -/
def done (a : α) : BulkOutcome α := ⟨[a], []⟩

/-- The item failed. -/
def failure (a : α) (e : ServiceError) : BulkOutcome α := ⟨[], [(a, e)]⟩

/-- The outcome for renamed items. -/
def map {β : Type} (f : α → β) (o : BulkOutcome α) : BulkOutcome β :=
  ⟨o.succeeded.map f, o.failed.map fun x => (f x.1, x.2)⟩

end BulkOutcome
end SensorBroker
