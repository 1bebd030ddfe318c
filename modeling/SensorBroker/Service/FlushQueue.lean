/-
# Whose flush is complete

The hardware flushes a sensor, not a client, so the event that ends a flush
does not say who asked. Requests are therefore queued per sensor, in order,
and each completion belongs to the oldest. A request is queued before the
command is given, for the completion may come at once; if the command fails,
the request is withdrawn.

Key definitions: `FlushEntry`, `FlushQueues`, `FlushQueues.request`,
`FlushQueues.complete`.
-/
import SensorBroker.Service.Arbitration

namespace SensorBroker

/-- A flush that is not complete. -/
structure FlushEntry where
  sensor : SensorId
  pid : Pid
  /-- The channel the completion goes to. -/
  channel : ChannelId
  /-- The broker asked for it when the process joined a running sensor. -/
  isFirst : Bool
  /-- The number of the request. -/
  number : Nat
deriving DecidableEq, Inhabited

/-- The flushes that are not complete. -/
structure FlushQueues where
  /-- For each sensor its flushes, oldest first. -/
  queues : Table SensorId (List FlushEntry)
  /-- The number of the next request. -/
  next : Nat
deriving DecidableEq, Inhabited

namespace FlushQueues

/-- No flush. -/
def empty : FlushQueues := ⟨∅, 0⟩

instance : EmptyCollection FlushQueues := ⟨empty⟩

/-- The flushes of a sensor, oldest first. -/
def of (q : FlushQueues) (s : SensorId) : List FlushEntry :=
  q.queues.getD s []

/-- The processes that wait for a flush of a sensor, oldest first. -/
def pending (q : FlushQueues) (s : SensorId) : List Pid :=
  (q.of s).map FlushEntry.pid

/-- How many flushes are not complete. -/
def pendingCount (q : FlushQueues) : Nat :=
  q.queues.values.flatten.length

/-- The queues with that of a sensor replaced. -/
def set (q : FlushQueues) (s : SensorId) (entries : List FlushEntry) : FlushQueues :=
  { q with queues := if entries.isEmpty then q.queues.erase s else q.queues.insert s entries }

/-- Queues a flush. -/
def push (q : FlushQueues) (s : SensorId) (pid : Pid) (channel : ChannelId) (isFirst : Bool) :
    FlushQueues :=
  { q.set s (q.of s ++ [⟨s, pid, channel, isFirst, q.next⟩]) with next := q.next + 1 }

/-- Takes the request with a number out again. -/
def withdraw (q : FlushQueues) (s : SensorId) (number : Nat) : FlushQueues :=
  q.set s ((q.of s).filter fun e => e.number ≠ number)

/-- Queues a flush for a process and gives the command. -/
def request (q : FlushQueues) (a : Arbitration) (s : SensorId) (pid : Pid) (channel : ChannelId)
    (isFirst : Bool) : Except ServiceError Unit × FlushQueues × Arbitration :=
  match a.runCommand s .flush with
  | (.ok _, a) => (.ok (), q.push s pid channel isFirst, a)
  | (.error e, a) => (.error e, (q.push s pid channel isFirst).withdraw s q.next, a)

/-- Takes the request that a completion belongs to, if there is one. -/
def complete (q : FlushQueues) (s : SensorId) : Option FlushEntry × FlushQueues :=
  match q.of s with
  | [] => (none, q)
  | e :: rest => (some e, q.set s rest)

end FlushQueues
end SensorBroker
