/-
# Watching channels for what clients write

A watcher reads what the client of one channel writes and takes the frames out
of it, counting frames and dropped bytes on the channel. It stops in silence
when the channel was closed on the broker's side, and reports a hang-up once
when the client is gone and all it wrote has been read. A watcher that finds
nothing to read writes what the channel has queued.

Key definitions: `Watcher`, `WatchStatus`, `Watched`, `Watcher.run`,
`Watchers`, `Watchers.register`, `Watchers.idle`.
-/
import SensorBroker.Channel.Channels

namespace SensorBroker

/-- The reader at the broker's end. -/
structure Watcher where
  framing : Framing
  buffer : ReceiveBuffer
deriving DecidableEq, Inhabited

/-- How a watcher stands. -/
inductive WatchStatus
  /-- It waits for more. -/
  | watching
  /-- The client is gone; this is reported. -/
  | hungUp
  /-- The channel was closed on this side. -/
  | closed
deriving DecidableEq

/-- What a watcher did. -/
structure Watched where
  /-- The packets it took, in order. -/
  packets : List Packet
  watcher : Watcher
  session : Session
  status : WatchStatus

namespace Watcher

/-- A watcher for these settings. -/
def fresh (settings : TransportSettings) : Watcher :=
  ⟨settings.framing, settings.framing.buffer⟩

/-- The session after a read that brought `n` frames and `resets` resets. -/
def counted (s : Session) (n resets : Nat) (l : Link) : Session :=
  { s with
    link := l
    counters := { s.counters with
      framesReceived := s.counters.framesReceived + n
      protocolResets := s.counters.protocolResets + resets } }

/-- Reads until nothing is left to read. -/
def run (w : Watcher) (s : Session) : Watched :=
  if s.isClosed then ⟨[], w, s, .closed⟩
  else
    match _h : s.link.readAtBroker w.framing.readChunk with
    | (.nothing, _) => ⟨[], w, s, .watching⟩
    | (.ended, _) => ⟨[], w, s, .hungUp⟩
    | (.bytes chunk, l) =>
      let absorbed := w.framing.absorb w.buffer chunk
      let later := run { w with buffer := absorbed.buffer }
        (counted s absorbed.packets.length absorbed.resets l)
      { later with packets := absorbed.packets ++ later.packets }
termination_by s.link.toBroker.size
decreasing_by exact Link.readAtBroker_size _h

end Watcher

/-- The watchers of a broker, by the number of their channel. -/
abbrev Watchers := Table ChannelId Watcher

namespace Watchers

/-- Watches a channel from now on; a watcher it already has is replaced. -/
def register (ws : Watchers) (settings : TransportSettings) (id : ChannelId) : Watchers :=
  ws.insert id (Watcher.fresh settings)

/-- What one watcher of a channel did, if there is one: its packets, how it
stands, and what is left of watchers and channels. A watcher that does not
wait for more is done. -/
def poll (ws : Watchers) (cs : Channels) (id : ChannelId) :
    List Packet × WatchStatus × Watchers × Channels :=
  match ws.get? id, cs.get? id with
  | some w, some s =>
    let watched := w.run s
    (watched.packets, watched.status,
      if watched.status = .watching then ws.insert id watched.watcher else ws.erase id,
      cs.update id fun _ => watched.session)
  | _, _ => ([], .closed, ws.erase id, cs)

/-- A watcher that has waited in vain writes what its channel has queued. -/
def idle (ws : Watchers) (cs : Channels) (id : ChannelId) : Channels :=
  if ws.contains id then
    cs.update id fun s => if 0 < s.counters.pendingBytes then s.flushPending.2 else s
  else cs

end Watchers
end SensorBroker
