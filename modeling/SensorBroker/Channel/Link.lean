/-
# The socket pair under a channel

A channel is a pair of connected sockets: the broker's end and the client's.
What matters of them is the bytes on their way in each direction, whether an
end is gone, and how much a socket takes at each attempt to write. The last is
not in the broker's hands, so it is a parameter, `SocketRule`: for every
attempt, how many bytes it takes, given how many it holds and how many are
offered. A write that is not taken whole is tried again until it has been
turned away a given number of times (`SocketRule.press`).

A client that is gone takes no more bytes; what it wrote before can still be
read. A broker's end that is shut delivers what it took before, then its end.

Key definitions: `SocketRule`, `Effort`, `SocketRule.press`, `Link`,
`Link.offer?`, `Link.carry`, `Link.readAtClient`, `Link.readAtBroker`.
-/
import SensorBroker.Channel.Error
import SensorBroker.Wire.ByteQueue

namespace SensorBroker

/-- How much a socket takes. -/
structure SocketRule where
  /-- The bytes that the attempt with this number takes, given how many bytes
  the socket holds and how many are offered. -/
  accepts : (attempt held offered : Nat) → Nat

/-- A socket that takes what is offered in pieces of at most `piece` bytes,
each of them whole, for as long as it holds less than `capacity`. What is no
longer than a piece is taken whole or not at all. -/
def SocketRule.inPieces (piece capacity : Nat) : SocketRule :=
  ⟨fun _ held offered => min offered (piece * ((capacity - held + (piece - 1)) / piece))⟩

instance : Inhabited SocketRule := ⟨.inPieces 36544 212992⟩

/-- What came of an effort to write. -/
structure Effort where
  /-- The bytes taken. -/
  taken : Nat
  /-- How many attempts took none or only some of what they were offered. -/
  cutShort : Nat
  /-- The number of the next attempt. -/
  attempt : Nat
deriving DecidableEq, Inhabited

/-- Writes `offered` bytes to a socket that holds `held`: attempts follow one
another until all is taken or `limit` attempts, of which `blocked` have been
made, took nothing. -/
def SocketRule.press (rule : SocketRule) (limit held attempt blocked offered : Nat) : Effort :=
  if offered = 0 then ⟨0, 0, attempt⟩
  else
    let n := min offered (rule.accepts attempt held offered)
    if n = 0 then
      if blocked + 1 < limit then
        let later := rule.press limit held (attempt + 1) (blocked + 1) offered
        { later with cutShort := later.cutShort + 1 }
      else ⟨0, 1, attempt + 1⟩
    else
      let later := rule.press limit (held + n) (attempt + 1) blocked (offered - n)
      { later with
        taken := n + later.taken
        cutShort := (if n < offered then 1 else 0) + later.cutShort }
termination_by offered + (limit - blocked)

/-- What one read brought. -/
inductive ReadResult
  | bytes (run : Bytes)
  /-- Nothing is there yet. -/
  | nothing
  /-- Nothing will come any more. -/
  | ended
deriving DecidableEq

/-- A pair of connected sockets. -/
structure Link where
  /-- How much the broker's socket takes. -/
  rule : SocketRule
  /-- The number of the next attempt to write at the broker's end. -/
  attempt : Nat
  /-- Bytes the broker wrote and the client has not read. -/
  toClient : ByteQueue
  /-- Bytes the client wrote and the broker has not read. -/
  toBroker : ByteQueue
  /-- The client's end is gone. -/
  clientGone : Bool
  /-- The broker's end is shut. -/
  shut : Bool
deriving Inhabited

namespace Link

/-- A fresh pair. -/
def fresh (rule : SocketRule) : Link :=
  ⟨rule, 0, ∅, ∅, false, false⟩

/-- An effort to write `offered` bytes at the broker's end; none where the
client is gone. Writing no bytes is no effort and always succeeds. -/
def offer? (l : Link) (limit offered : Nat) : Option Effort :=
  if l.clientGone && offered ≠ 0 then none
  else some (l.rule.press limit l.toClient.size l.attempt 0 offered)

/-- Puts the bytes an effort took on their way. -/
def carry (l : Link) (e : Effort) (run : Bytes) : Link :=
  { l with attempt := e.attempt, toClient := l.toClient.push run }

/-- One read of at most `n` bytes at the client's end. A read for no bytes
looks like the end. -/
def readAtClient (l : Link) (n : Nat) : ReadResult × Link :=
  if l.toClient.isEmpty then (if l.shut then .ended else .nothing, l)
  else if n = 0 then (.ended, l)
  else (.bytes (l.toClient.split n).1, { l with toClient := (l.toClient.split n).2 })

/-- One read of at most `n` bytes at the broker's end. -/
def readAtBroker (l : Link) (n : Nat) : ReadResult × Link :=
  if l.toBroker.isEmpty then (if l.clientGone then .ended else .nothing, l)
  else if n = 0 then (.ended, l)
  else (.bytes (l.toBroker.split n).1, { l with toBroker := (l.toBroker.split n).2 })

/-- Writes bytes at the client's end, where nothing limits them. -/
def writeAtClient (l : Link) (run : Bytes) : Except ChannelError Link :=
  if run.isEmpty then .ok l
  else if l.shut then .error .brokenPipe
  else .ok { l with toBroker := l.toBroker.push run }

/-- The client's end goes away. -/
def dropClient (l : Link) : Link :=
  { l with clientGone := true }

/-- The broker's end is shut. -/
def shutDown (l : Link) : Link :=
  { l with shut := true }

theorem readAtClient_size {l l' : Link} {n : Nat} {run : Bytes}
    (h : l.readAtClient n = (.bytes run, l')) : l'.toClient.size < l.toClient.size := by
  unfold readAtClient at h
  split at h
  · split at h <;> simp at h
  · next hne =>
    split at h
    · simp at h
    · next hn =>
      simp only [Prod.mk.injEq] at h
      obtain ⟨-, rfl⟩ := h
      have : l.toClient.toList ≠ [] := fun h => hne ((ByteQueue.isEmpty_iff _).2 h)
      have := List.length_pos_iff.2 this
      simp only [ByteQueue.size_eq_length, ByteQueue.split_snd, List.length_drop]
      omega

theorem readAtBroker_size {l l' : Link} {n : Nat} {run : Bytes}
    (h : l.readAtBroker n = (.bytes run, l')) : l'.toBroker.size < l.toBroker.size := by
  unfold readAtBroker at h
  split at h
  · split at h <;> simp at h
  · next hne =>
    split at h
    · simp at h
    · next hn =>
      simp only [Prod.mk.injEq] at h
      obtain ⟨-, rfl⟩ := h
      have : l.toBroker.toList ≠ [] := fun h => hne ((ByteQueue.isEmpty_iff _).2 h)
      have := List.length_pos_iff.2 this
      simp only [ByteQueue.size_eq_length, ByteQueue.split_snd, List.length_drop]
      omega

end Link
end SensorBroker
