/-
# The client's end of a channel

A client reads its socket in pieces, takes the frames out of them and hands
them out one by one. It reads again only when no frame is ready, so a frame
that came before the end of the stream is handed out before the end is. Taking
all frames at once (`Client.receiveAll`) reads to the end first: where the
stream has ended, the error takes the place of the frames.

Key definitions: `Client`, `Receipt`, `Client.receive`, `Client.gather`,
`Client.receiveAll`, `Client.send`.
-/
import SensorBroker.Channel.Link
import SensorBroker.Config.Basic

namespace SensorBroker

/-- The reader at the client's end. -/
structure Client where
  framing : Framing
  buffer : ReceiveBuffer
  /-- Frames taken and not yet handed out. -/
  ready : List Packet
deriving DecidableEq, Inhabited

/-- What a client gets when it asks for a frame. -/
inductive Receipt
  | packet (p : Packet)
  /-- No frame came in time. -/
  | nothing
  /-- The broker has closed the channel. -/
  | closed
deriving DecidableEq

namespace Client

/-- The reader for these settings. -/
def fresh (settings : TransportSettings) : Client :=
  ⟨settings.framing, settings.framing.buffer, []⟩

/-- Takes in what one read brought. -/
def absorb (c : Client) (chunk : Bytes) : Client :=
  let absorbed := c.framing.absorb c.buffer chunk
  { c with buffer := absorbed.buffer, ready := c.ready ++ absorbed.packets }

/-- The next frame: one that is ready, or else the first that reading brings. -/
def receive (c : Client) (l : Link) : Receipt × Client × Link :=
  match c.ready with
  | p :: rest => (.packet p, { c with ready := rest }, l)
  | [] =>
    match _h : l.readAtClient c.framing.readChunk with
    | (.nothing, l) => (.nothing, c, l)
    | (.ended, l) => (.closed, c, l)
    | (.bytes run, l') => receive (c.absorb run) l'
termination_by l.toClient.size
decreasing_by exact Link.readAtClient_size _h

/-- Reads all that has come; says whether the stream has ended. -/
def gather (c : Client) (l : Link) : Bool × Client × Link :=
  match _h : l.readAtClient c.framing.readChunk with
  | (.nothing, l) => (false, c, l)
  | (.ended, l) => (true, c, l)
  | (.bytes run, l') => gather (c.absorb run) l'
termination_by l.toClient.size
decreasing_by exact Link.readAtClient_size _h

/-- All frames that are there; at the end of the stream an error in their
place. -/
def receiveAll (c : Client) (l : Link) (channel : ChannelId) :
    Except ChannelError (List Packet) × Client × Link :=
  match c.gather l with
  | (true, c, l) => (.error (.closed channel), { c with ready := [] }, l)
  | (false, c, l) => (.ok c.ready, { c with ready := [] }, l)

/-- Writes one frame to the broker. -/
def send (c : Client) (l : Link) (p : Packet) : Except ChannelError Link :=
  match p.frame? c.framing.maxPacketSize with
  | .error e => .error e
  | .ok frame => l.writeAtClient frame

end Client
end SensorBroker
