/-
# Sessions: the broker's end of a channel

A session belongs to a process. It is created, then bound to its process,
streams once a frame was sent, and is closed in the end; a closed session
stays closed and sends nothing. A frame goes out whole and in order: bytes
queued from earlier go first, and what the socket does not take is queued. The
queue is a ring of a fixed capacity; where the rest of a frame does not fit
into it, the send fails.

Key definitions: `SessionState`, `PendingQueue`, `Session`, `Session.bind`,
`Session.sendFrame`, `Session.flushPending`, `Session.close`.
Key theorems: `Session.sendFrame_closed`.
-/
import SensorBroker.Channel.Link
import SensorBroker.Config.Basic

namespace SensorBroker

/-- The life of a session. -/
inductive SessionState
  /-- The sockets are there. -/
  | created
  /-- The session belongs to its process. -/
  | bound
  /-- A frame was sent. -/
  | streaming
  /-- Nothing will be sent any more. -/
  | closed
deriving DecidableEq, Inhabited

/-- The name of a state. -/
def SessionState.name : SessionState → String
  | .created => "Created"
  | .bound => "Bound"
  | .streaming => "Streaming"
  | .closed => "Closed"

/-- The state after a frame was sent. -/
def SessionState.sent : SessionState → SessionState
  | .created | .bound => .streaming
  | state => state

/-- What is counted on a channel. -/
structure ChannelCounters where
  /-- Bytes in the queue after the last send or flush. -/
  pendingBytes : Nat := 0
  framesSent : Nat := 0
  framesReceived : Nat := 0
  /-- Attempts to write that were not taken whole. -/
  partialWrites : Nat := 0
  sendFailures : Nat := 0
  /-- How often received bytes were dropped. -/
  protocolResets : Nat := 0
deriving DecidableEq, Inhabited

/-- Bytes that wait to be written, in a ring of `capacity` cells. -/
structure PendingQueue where
  bytes : ByteQueue
  /-- The cell of the oldest byte. -/
  start : Nat
  capacity : Nat
deriving DecidableEq, Inhabited

namespace PendingQueue

/-- An empty queue. -/
def ofCapacity (capacity : Nat) : PendingQueue :=
  ⟨∅, 0, capacity⟩

/-- How many bytes wait. -/
def size (q : PendingQueue) : Nat :=
  q.bytes.size

/-- Whether no byte waits. -/
def isEmpty (q : PendingQueue) : Bool :=
  q.bytes.isEmpty

/-- How many of the oldest bytes lie in consecutive cells. -/
def firstRun (q : PendingQueue) : Nat :=
  min q.size (q.capacity - q.start)

/-- Takes the `n` oldest bytes out. -/
def split (q : PendingQueue) (n : Nat) : Bytes × PendingQueue :=
  let taken := q.bytes.split n
  (taken.1, { q with bytes := taken.2, start := (q.start + n) % q.capacity })

/-- Adds bytes, if all of them fit. -/
def push? (q : PendingQueue) (run : Bytes) : Option PendingQueue :=
  if q.capacity - q.size < run.length then none
  else some { q with bytes := q.bytes.push run }

end PendingQueue

/-- The broker's end of a channel. -/
structure Session where
  channel : ChannelId
  pid : Pid
  uid : Uid
  tokenType : Int32
  state : SessionState
  pending : PendingQueue
  maxPacketSize : UInt32
  /-- The attempts that may take nothing before the rest is queued. -/
  retryLimit : Nat
  counters : ChannelCounters
  link : Link
deriving Inhabited

namespace Session

/-- A session over a fresh pair of sockets. -/
def fresh (channel : ChannelId) (pid : Pid) (uid : Uid) (tokenType : Int32)
    (settings : TransportSettings) (rule : SocketRule) : Session where
  channel := channel
  pid := pid
  uid := uid
  tokenType := tokenType
  state := .created
  pending := .ofCapacity settings.pendingCapacity.toNat
  maxPacketSize := settings.maxPacketSize
  retryLimit := settings.retryLimit.toNat
  counters := {}
  link := .fresh rule

/-- Whether the session is closed. -/
def isClosed (s : Session) : Bool :=
  s.state = .closed

/-- Binds the session to its process. -/
def bind (s : Session) : Except ChannelError Unit × Session :=
  match s.state with
  | .closed => (.error (.closed s.channel), s)
  | .created => (.ok (), { s with state := .bound })
  | .bound | .streaming => (.ok (), s)

/-- Notes an effort to write and puts what it took on its way. -/
def written (s : Session) (e : Effort) (run : Bytes) : Session :=
  { s with
    link := s.link.carry e run
    counters := { s.counters with partialWrites := s.counters.partialWrites + e.cutShort } }

/-- Writes the first run of the queue; says whether all of the run went. -/
def drainRun (s : Session) : Except ChannelError Bool × Session :=
  match s.link.offer? s.retryLimit s.pending.firstRun with
  | none => (.error .brokenPipe, s)
  | some e =>
    let taken := s.pending.split e.taken
    (.ok (e.taken == s.pending.firstRun), { s.written e taken.1 with pending := taken.2 })

/-- Writes what the queue holds, as far as the socket takes it. A ring holds
at most two runs; the second is tried once the first has gone. -/
def drain (s : Session) : Except ChannelError Unit × Session :=
  match s.drainRun with
  | (.error e, s) => (.error e, s)
  | (.ok false, s) => (.ok (), s)
  | (.ok true, s) =>
    match s.drainRun with
    | (.error e, s) => (.error e, s)
    | (.ok _, s) => (.ok (), s)

/-- Queues bytes. -/
def enqueue (s : Session) (run : Bytes) : Except ChannelError Unit × Session :=
  match s.pending.push? run with
  | some pending => (.ok (), { s with pending })
  | none => (.error (.queueFull s.channel s.pending.size s.pending.capacity), s)

/-- Writes a frame that nothing is queued before. -/
def writeFrame (s : Session) (frame : Bytes) : Except ChannelError Unit × Session :=
  match s.link.offer? s.retryLimit frame.length with
  | none => (.error .brokenPipe, s)
  | some e =>
    let s := s.written e (frame.take e.taken)
    if e.taken < frame.length then s.enqueue (frame.drop e.taken) else (.ok (), s)

/-- Sends a frame behind all that is queued. -/
def sendInOrder (s : Session) (frame : Bytes) : Except ChannelError Unit × Session :=
  match s.drain with
  | (.error e, s) => (.error e, s)
  | (.ok _, s) => if s.pending.isEmpty then s.writeFrame frame else s.enqueue frame

/-- Sends a frame and counts what came of it. On a closed session nothing is
sent and nothing counted. -/
def sendFrame (s : Session) (frame : Bytes) : Except ChannelError Unit × Session :=
  if s.isClosed then (.error (.closed s.channel), s)
  else
    match s.sendInOrder frame with
    | (.ok _, s) =>
      (.ok (), { s with
        state := s.state.sent
        counters := { s.counters with
          pendingBytes := s.pending.size, framesSent := s.counters.framesSent + 1 } })
    | (.error e, s) =>
      (.error e, { s with
        counters := { s.counters with
          pendingBytes := s.pending.size, sendFailures := s.counters.sendFailures + 1 } })

/-- Sends a packet. -/
def send (s : Session) (p : Packet) : Except ChannelError Unit × Session :=
  match p.frame? s.maxPacketSize with
  | .error e => (.error e, s)
  | .ok frame => s.sendFrame frame

/-- Writes what is queued; says whether the queue is empty now. -/
def flushPending (s : Session) : Except ChannelError Bool × Session :=
  if s.isClosed then (.error (.closed s.channel), s)
  else
    match s.drain with
    | (.error e, s) => (.error e, s)
    | (.ok _, s) =>
      (.ok s.pending.isEmpty,
        { s with counters := { s.counters with pendingBytes := s.pending.size } })

/-- Closes the session; the client still reads what the socket holds, then
the end. -/
def close (s : Session) : Session :=
  { s with state := .closed, link := s.link.shutDown }

@[simp] theorem state_close (s : Session) : s.close.state = .closed := rfl

@[simp] theorem isClosed_close (s : Session) : s.close.isClosed = true := rfl

/-- A closed session sends nothing. -/
theorem sendFrame_closed {s : Session} (h : s.isClosed = true) (frame : Bytes) :
    s.sendFrame frame = (.error (.closed s.channel), s) := by
  simp [sendFrame, h]

end Session
end SensorBroker
