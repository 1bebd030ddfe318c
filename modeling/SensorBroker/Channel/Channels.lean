/-
# All channels of a broker

Every session that was ever opened, by its number. A session that is closed
stays in the list, since whoever still holds its number must find it closed.

Key definitions: `Channels`, `Channels.add`, `Channels.get?`,
`Channels.update`, `Channels.send`, `Channels.close`.
Key theorems: `Channels.get?_add_self`, `Channels.get?_update_of_ne`.
-/
import SensorBroker.Channel.Session

namespace SensorBroker

/-- The sessions opened so far; the first has number zero. -/
structure Channels where
  sessions : List Session
deriving Inhabited

namespace Channels

/-- No session. -/
def empty : Channels := ⟨[]⟩

instance : EmptyCollection Channels := ⟨empty⟩

/-- The number the next session gets. -/
def next (cs : Channels) : ChannelId :=
  Int.ofNat cs.sessions.length

/-- The session with this number. -/
def get? (cs : Channels) : ChannelId → Option Session
  | .ofNat n => cs.sessions[n]?
  | .negSucc _ => none

/-- Changes the session with this number. -/
def update (cs : Channels) (id : ChannelId) (f : Session → Session) : Channels :=
  match id with
  | .ofNat n => ⟨cs.sessions.modify n f⟩
  | .negSucc _ => cs

/-- Opens a session for a process; it gets the next number. -/
def add (cs : Channels) (pid : Pid) (uid : Uid) (tokenType : Int32)
    (settings : TransportSettings) (rule : SocketRule) : ChannelId × Channels :=
  (cs.next, ⟨cs.sessions ++ [.fresh cs.next pid uid tokenType settings rule]⟩)

/-- Closes a session. -/
def close (cs : Channels) (id : ChannelId) : Channels :=
  cs.update id Session.close

/-- Binds a session to its process. -/
def bind (cs : Channels) (id : ChannelId) : Channels :=
  cs.update id fun s => s.bind.2

/-- Does something with a session that has a result; a number without a
session is an error. -/
def act {α : Type} (cs : Channels) (id : ChannelId)
    (f : Session → Except ChannelError α × Session) : Except ChannelError α × Channels :=
  match cs.get? id with
  | none => (.error (.noSession id), cs)
  | some s => ((f s).1, cs.update id fun _ => (f s).2)

/-- Sends a frame. -/
def sendFrame (cs : Channels) (id : ChannelId) (frame : Bytes) :
    Except ChannelError Unit × Channels :=
  cs.act id (·.sendFrame frame)

/-- Sends a packet. -/
def send (cs : Channels) (id : ChannelId) (p : Packet) : Except ChannelError Unit × Channels :=
  cs.act id (·.send p)

/-- Whether a session is closed. -/
def isClosed (cs : Channels) (id : ChannelId) : Bool :=
  match cs.get? id with
  | none => true
  | some s => s.isClosed

theorem get?_update_self (cs : Channels) (id : ChannelId) (f : Session → Session) :
    (cs.update id f).get? id = (cs.get? id).map f := by
  cases id with
  | ofNat n => simp [update, get?]
  | negSucc n => rfl

theorem get?_update_of_ne (cs : Channels) {id other : ChannelId} (f : Session → Session)
    (h : other ≠ id) : (cs.update id f).get? other = cs.get? other := by
  cases id with
  | negSucc n => rfl
  | ofNat n =>
    cases other with
    | negSucc m => rfl
    | ofNat m =>
      have : n ≠ m := fun h' => h (h' ▸ rfl)
      simp [update, get?, this]

theorem get?_add_self (cs : Channels) (pid : Pid) (uid : Uid) (tokenType : Int32)
    (settings : TransportSettings) (rule : SocketRule) :
    (cs.add pid uid tokenType settings rule).2.get? cs.next
      = some (.fresh cs.next pid uid tokenType settings rule) := by
  simp [add, get?, next]

end Channels
end SensorBroker
