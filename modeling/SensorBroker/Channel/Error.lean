/-
# What can go wrong on a channel

Key definitions: `ChannelId`, `ChannelError`, `ChannelError.isFatal`,
`ChannelError.message`.
-/
import SensorBroker.Wire.Frame

namespace SensorBroker

/-- The number a channel is known by. Numbers are given out from zero up and
never twice; a negative number is no channel. -/
abbrev ChannelId := Int

/-- Why an operation on a channel failed. -/
inductive ChannelError
  /-- A header declared more than a frame may carry. -/
  | corruption (declared max : UInt32)
  /-- A payload is more than a frame may carry. -/
  | oversize (o : Oversize)
  /-- The channel is closed. -/
  | closed (channel : ChannelId)
  /-- What the socket did not take does not fit into the queue. -/
  | queueFull (channel : ChannelId) (pending capacity : Nat)
  /-- No session has this number. -/
  | noSession (channel : ChannelId)
  /-- The process has no session. -/
  | noSessionOf (pid : Pid)
  /-- A payload is not the record that was asked for. -/
  | codec (message : UInt32) (detail : String)
  /-- A fault of another layer. -/
  | fault (f : Fault)
  /-- The socket failed. -/
  | io (detail : String)
deriving DecidableEq, Inhabited

namespace ChannelError

/-- Whether the channel is of no more use after this error. -/
def isFatal : ChannelError → Bool
  | .closed _ => true
  | .queueFull .. => true
  | .io _ => true
  | _ => false

/-- The short name of an error. -/
def kind : ChannelError → String
  | .corruption .. => "ProtocolCorruption"
  | .oversize _ => "PayloadTooLarge"
  | .closed _ => "ChannelClosed"
  | .queueFull .. => "QueueFull"
  | .noSession _ => "SessionNotFound"
  | .noSessionOf _ => "PidNotFound"
  | .codec .. => "Codec"
  | .fault f => f.kind
  | .io _ => "Io"

/-- The wording of an error. -/
def message : ChannelError → String
  | .corruption declared max =>
    "protocol corruption: declared size " ++ toString declared.toNat ++ " exceeds max "
      ++ toString max.toNat
  | .oversize o =>
    "payload of " ++ toString o.size ++ " bytes exceeds max packet size " ++ toString o.max.toNat
  | .closed channel => "channel fd=" ++ toString channel ++ " is closed"
  | .queueFull channel pending capacity =>
    "pending queue full on fd=" ++ toString channel ++ ": " ++ toString pending
      ++ " bytes pending, " ++ toString capacity ++ " capacity"
  | .noSession channel => "no session for fd=" ++ toString channel
  | .noSessionOf pid => "no session for pid=" ++ toString pid.toInt
  | .codec id detail => "codec error for message " ++ toString id.toNat ++ ": " ++ detail
  | .fault f => f.message
  | .io detail => "io error: " ++ detail

/-- The peer of a socket is gone. -/
def brokenPipe : ChannelError :=
  .io "broken pipe"

end ChannelError

/-- The record in a payload. -/
def Packet.record {α : Type} (c : Codec α) (p : Packet) : Except ChannelError α :=
  match c.decode p.payload with
  | .ok (a, _) => .ok a
  | .error e => .error (.codec p.message ("bincode error: " ++ e.message))

/-- The kind of a packet. -/
def Packet.kind (p : Packet) : Except ChannelError Message :=
  match Message.ofId? p.message with
  | .ok m => .ok m
  | .error f => .error (.fault f)

/-- The frame of a packet, as a channel sends it. -/
def Packet.frame? (p : Packet) (max : UInt32) : Except ChannelError Bytes :=
  match p.frame max with
  | .ok bs => .ok bs
  | .error o => .error (.oversize o)

end SensorBroker
