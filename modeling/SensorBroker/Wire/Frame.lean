/-
# Packets and frames

A packet is a message number and a payload. On the wire it is a frame: a
header of eight bytes, the number and the length of the payload, both
little-endian, and then the payload. A frame never carries more than the
agreed maximum, so a packet that is too large has no frame.

Key definitions: `Packet`, `Header`, `Header.peek?`, `Packet.frame`,
`Packet.ofRecord`.
-/
import SensorBroker.Wire.Message
import SensorBroker.Wire.Record

namespace SensorBroker

/-- A message number and a payload. -/
structure Packet where
  /-- The number of the message, known or not. -/
  message : UInt32
  payload : Bytes
deriving DecidableEq, Inhabited

/-- What stands in front of a payload. -/
structure Header where
  message : UInt32
  /-- The declared length of the payload. -/
  size : UInt32
deriving DecidableEq, Inhabited

/-- The length of a header. -/
def headerSize : Nat := 8

/-- The header at the front of the bytes, if it is complete. -/
def Header.peek? (bs : Bytes) : Option Header :=
  match Codec.uint32.decode bs with
  | .error _ => none
  | .ok (message, rest) =>
    match Codec.uint32.decode rest with
    | .error _ => none
    | .ok (size, _) => some ⟨message, size⟩

/-- The bytes of a header. -/
def Header.bytes (h : Header) : Bytes :=
  Codec.uint32.encode h.message ++ Codec.uint32.encode h.size

/-- A payload does not fit into a frame. -/
structure Oversize where
  size : Nat
  max : UInt32
deriving DecidableEq, Inhabited

namespace Packet

/-- The packet that carries a record. -/
def ofRecord {α : Type} (c : Codec α) (m : Message) (a : α) : Packet :=
  ⟨m.id, c.encode a⟩

/-- The length of the frame of a packet. -/
def frameSize (p : Packet) : Nat :=
  headerSize + p.payload.length

/-- The frame of a packet, where its payload is at most `max` bytes. -/
def frame (p : Packet) (max : UInt32) : Except Oversize Bytes :=
  let size := p.payload.length
  if size ≤ max.toNat then .ok (Header.bytes ⟨p.message, UInt32.ofNat size⟩ ++ p.payload)
  else .error ⟨size, max⟩

end Packet
end SensorBroker
