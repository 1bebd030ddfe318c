/-
# Who owns which socket channel

A process owns at most one socket channel; asking for another closes and
replaces the one it has. The directory finds a channel by its number and by
its process, and the two ways agree. A packet can be sent to one channel or to
many; to many it is framed once and then sent to each on its own, so one that
fails keeps it from no other.

Key definitions: `Directory`, `Directory.add`, `Directory.remove`,
`Directory.closeAll`, `Directory.send`, `Directory.multicast`.
-/
import SensorBroker.Channel.Channels

namespace SensorBroker

/-- The socket channels of the processes. -/
structure Directory where
  /-- The owner of a channel. -/
  byChannel : Table ChannelId Pid
  /-- The channel of a process. -/
  byPid : Table Pid ChannelId
deriving DecidableEq, Inhabited

/-- What came of sending to many. -/
structure Multicast where
  /-- The channels that took the frame, in the order asked for. -/
  delivered : List ChannelId
  /-- The channels that did not, and why. -/
  failed : List (ChannelId × ChannelError)
deriving DecidableEq, Inhabited

/-- Whether every channel took the frame. -/
def Multicast.allDelivered (m : Multicast) : Bool :=
  m.failed.isEmpty

namespace Directory

/-- No socket channel. -/
def empty : Directory := ⟨∅, ∅⟩

instance : EmptyCollection Directory := ⟨empty⟩

/-- Opens and binds a socket channel for a process, in the place of the one it
has. -/
def add (d : Directory) (cs : Channels) (pid : Pid) (uid : Uid) (tokenType : Int32)
    (settings : TransportSettings) (rule : SocketRule) : ChannelId × Directory × Channels :=
  let (id, cs) := cs.add pid uid tokenType settings rule
  let cs := cs.bind id
  match d.byPid.get? pid with
  | some old =>
    (id, ⟨(d.byChannel.erase old).insert id pid, d.byPid.insert pid id⟩,
      if d.byChannel.contains old then cs.close old else cs)
  | none => (id, ⟨d.byChannel.insert id pid, d.byPid.insert pid id⟩, cs)

/-- Takes the socket channel of a process out and closes it. -/
def remove (d : Directory) (cs : Channels) (pid : Pid) :
    Option ChannelId × Directory × Channels :=
  match d.byPid.get? pid with
  | none => (none, d, cs)
  | some id =>
    let d' : Directory := ⟨d.byChannel.erase id, d.byPid.erase pid⟩
    if d.byChannel.contains id then (some id, d', cs.close id) else (none, d', cs)

/-- Closes every socket channel. -/
def closeAll (d : Directory) (cs : Channels) : Directory × Channels :=
  (∅, d.byChannel.keys.foldl Channels.close cs)

/-- How many socket channels there are. -/
def size (d : Directory) : Nat :=
  d.byChannel.size

/-- Whether a number is that of a socket channel. -/
def contains (d : Directory) (id : ChannelId) : Bool :=
  d.byChannel.contains id

/-- The socket channel of a process, by either way. -/
def sessionOf? (d : Directory) (pid : Pid) : Option ChannelId :=
  (d.byPid.get? pid).filter d.contains

/-- Sends a frame to one channel. -/
def sendFrame (d : Directory) (cs : Channels) (id : ChannelId) (frame : Bytes) :
    Except ChannelError Unit × Channels :=
  if d.contains id then cs.sendFrame id frame else (.error (.noSession id), cs)

/-- Sends a packet to one channel. -/
def send (d : Directory) (cs : Channels) (id : ChannelId) (p : Packet) :
    Except ChannelError Unit × Channels :=
  if d.contains id then cs.send id p else (.error (.noSession id), cs)

/-- Sends a frame to each channel of a list, in order. -/
def sendEach (d : Directory) (frame : Bytes) : List ChannelId → Channels → Multicast × Channels
  | [], cs => (⟨[], []⟩, cs)
  | id :: ids, cs =>
    match d.sendFrame cs id frame with
    | (.ok _, cs) =>
      let (m, cs) := sendEach d frame ids cs
      ({ m with delivered := id :: m.delivered }, cs)
    | (.error e, cs) =>
      let (m, cs) := sendEach d frame ids cs
      ({ m with failed := (id, e) :: m.failed }, cs)

/-- Sends a packet to each channel of a list; a packet that has no frame is
sent to none. -/
def multicast (d : Directory) (cs : Channels) (ids : List ChannelId) (p : Packet)
    (maxPacketSize : UInt32) : Except ChannelError Multicast × Channels :=
  match p.frame? maxPacketSize with
  | .error e => (.error e, cs)
  | .ok frame =>
    let (m, cs) := d.sendEach frame ids cs
    (.ok m, cs)

end Directory
end SensorBroker
