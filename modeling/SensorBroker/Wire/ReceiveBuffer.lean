/-
# Taking frames from a stream

A receiver gathers the bytes it reads until whole frames are there. One pass
takes at most a given number of frames from the front. A header that declares
more than the agreed maximum cannot be skipped, since nothing says where the
next header is: the pass then drops all that is buffered. A pass says whether
another whole frame is still buffered, and a receiver makes passes until none
is (`ReceiveBuffer.drain`).

The buffer holds a limited number of bytes and refuses a write past its limit
without taking any of it.

Key definitions: `Front.of`, `Pass`, `Pass.run`, `drainBytes`,
`ReceiveBuffer`, `ReceiveBuffer.absorb`.
-/
import SensorBroker.Wire.Frame

namespace SensorBroker

/-- What stands at the front of buffered bytes. -/
inductive Front
  /-- No whole frame yet. -/
  | incomplete
  /-- A header that declares more than the maximum. -/
  | oversized
  /-- A frame and what follows it. -/
  | whole (packet : Packet) (rest : Bytes)
deriving DecidableEq

/-- What stands at the front of `bs` where a payload has at most `max` bytes. -/
def Front.of (max : UInt32) (bs : Bytes) : Front :=
  match Header.peek? bs with
  | none => .incomplete
  | some header =>
    if max < header.size then .oversized
    else
      match takeExactly header.size.toNat (bs.drop headerSize) with
      | some (payload, rest) => .whole ⟨header.message, payload⟩ rest
      | none => .incomplete

/-- Whether the bytes start with a header and all that it declares. -/
def holdsFrame (bs : Bytes) : Bool :=
  match Header.peek? bs with
  | none => false
  | some header => (takeExactly header.size.toNat (bs.drop headerSize)).isSome

/-- What a pass over buffered bytes did. -/
structure Pass where
  /-- The packets taken, in order. -/
  packets : List Packet
  /-- The bytes left. -/
  rest : Bytes
  /-- Whether the bytes were dropped because of an oversized header. -/
  reset : Bool
deriving DecidableEq

namespace Pass

/-- How many packets were taken. -/
def dispatched (p : Pass) : Nat :=
  p.packets.length

/-- Whether another whole frame is buffered. -/
def more (p : Pass) : Bool :=
  !p.reset && holdsFrame p.rest

/-- Takes at most `limit` frames from the front of the bytes. -/
def run (max : UInt32) : Nat → Bytes → Pass
  | 0, bs => ⟨[], bs, false⟩
  | limit + 1, bs =>
    match Front.of max bs with
    | .incomplete => ⟨[], bs, false⟩
    | .oversized => ⟨[], [], true⟩
    | .whole packet rest =>
      if rest.isEmpty then ⟨[packet], [], false⟩
      else
        let later := run max limit rest
        { later with packets := packet :: later.packets }

end Pass

/-- What repeated passes did. -/
structure Drained where
  /-- The packets taken, in order. -/
  packets : List Packet
  /-- The bytes left. -/
  rest : Bytes
  /-- How often the buffered bytes were dropped. -/
  resets : Nat
deriving DecidableEq

/-- Makes passes of at most `limit` frames until no whole frame is left. A
pass that reports more has taken bytes, unless the limit is zero; then no pass
can take anything, and the first is the last. -/
def drainBytes (max : UInt32) (limit : Nat) (bs : Bytes) : Drained :=
  let pass := Pass.run max limit bs
  let resets := if pass.reset then 1 else 0
  if _h : pass.more = true ∧ pass.rest.length < bs.length then
    let later := drainBytes max limit pass.rest
    ⟨pass.packets ++ later.packets, later.rest, resets + later.resets⟩
  else ⟨pass.packets, pass.rest, resets⟩
termination_by bs.length
decreasing_by exact _h.2

/-- The bytes a receiver has read and not yet used. -/
structure ReceiveBuffer where
  /-- The bytes, oldest first. -/
  unread : Bytes
  /-- The most bytes it holds. -/
  limit : Nat
deriving DecidableEq, Inhabited

namespace ReceiveBuffer

/-- An empty buffer for at most `limit` bytes. -/
def ofLimit (limit : Nat) : ReceiveBuffer :=
  ⟨[], limit⟩

/-- The number of unread bytes. -/
def unreadSize (b : ReceiveBuffer) : Nat :=
  b.unread.length

/-- Adds bytes at the end; past the limit nothing is taken. -/
def write? (b : ReceiveBuffer) (run : Bytes) : Option ReceiveBuffer :=
  if b.unread.length + run.length ≤ b.limit then some { b with unread := b.unread ++ run }
  else none

/-- Uses up the first `n` bytes, if there are that many. -/
def skip? (b : ReceiveBuffer) (n : Nat) : Option ReceiveBuffer :=
  if n ≤ b.unread.length then some { b with unread := b.unread.drop n } else none

/-- Drops every unread byte. -/
def reset (b : ReceiveBuffer) : ReceiveBuffer :=
  { b with unread := [] }

/-- One pass for at most `limit` frames. -/
def pass (b : ReceiveBuffer) (max : UInt32) (limit : Nat) : Pass × ReceiveBuffer :=
  let p := Pass.run max limit b.unread
  (p, { b with unread := p.rest })

/-- The text that describes a buffer. -/
def describe (b : ReceiveBuffer) : String :=
  "CircleStreamBuffer \x7b unread: " ++ toString b.unread.length ++ ", limit: "
    ++ toString b.limit ++ " \x7d"

end ReceiveBuffer

/-- How a receiver takes frames: the largest payload, the frames of a pass and
the bytes of a read. -/
structure Framing where
  maxPacketSize : UInt32
  passLimit : Nat
  readChunk : Nat
deriving DecidableEq, Inhabited

/-- The buffer of a receiver: room for one frame that is not whole and one
read. -/
def Framing.buffer (f : Framing) : ReceiveBuffer :=
  .ofLimit (headerSize + f.maxPacketSize.toNat + f.readChunk)

/-- What a receiver did with one read. -/
structure Absorbed where
  /-- The packets taken, in order. -/
  packets : List Packet
  buffer : ReceiveBuffer
  /-- How often buffered bytes were dropped. -/
  resets : Nat
deriving DecidableEq

/-- Takes in what one read brought. A read that does not fit drops what was
buffered and is dropped with it. -/
def Framing.absorb (f : Framing) (b : ReceiveBuffer) (chunk : Bytes) : Absorbed :=
  match b.write? chunk with
  | none => ⟨[], b.reset, 1⟩
  | some b =>
    let drained := drainBytes f.maxPacketSize f.passLimit b.unread
    ⟨drained.packets, { b with unread := drained.rest }, drained.resets⟩

end SensorBroker
