/-
# What stands at the front of received bytes

A packet that fits has a frame; where a whole frame stands at the front of
received bytes, the receiver takes out just its packet, and where only the
beginning of a frame has come it takes nothing and sees no frame.

Key definitions: `Packet.Fits`, `Packet.bytes`, `Unfinished`.
Key theorems: `Front.of_bytes_append`, `Unfinished.front`,
`Unfinished.holdsFrame`.
-/
import SensorBroker.Proofs.Wire.Codec
import SensorBroker.Wire.ReceiveBuffer

namespace SensorBroker

/-! ### Headers -/

@[simp] theorem Header.length_bytes (h : Header) : h.bytes.length = headerSize := by
  simp [Header.bytes, headerSize]

/-- A header is read back. -/
theorem Header.peek?_bytes_append (h : Header) (rest : Bytes) :
    Header.peek? (h.bytes ++ rest) = some h := by
  simp only [Header.peek?, Header.bytes, List.append_assoc,
    Codec.readsBack_uint32 h.message (Codec.uint32.encode h.size ++ rest),
    Codec.readsBack_uint32 h.size rest]

/-- A header is there once its eight bytes are. -/
theorem Header.peek?_eq_none_iff {bs : Bytes} : Header.peek? bs = none ↔ bs.length < headerSize := by
  unfold Header.peek? headerSize
  cases h₁ : Codec.uint32.decode bs with
  | error e =>
    have hshort := Codec.decode_uint32_eq_error_iff.1 ⟨e, h₁⟩
    exact iff_of_true rfl (by omega)
  | ok p =>
    obtain ⟨message, rest⟩ := p
    have hlen := Codec.decode_uint32_rest h₁
    simp only
    cases h₂ : Codec.uint32.decode rest with
    | error e =>
      have hshort := Codec.decode_uint32_eq_error_iff.1 ⟨e, h₂⟩
      exact iff_of_true rfl (by omega)
    | ok q =>
      obtain ⟨size, rest'⟩ := q
      have hlen' := Codec.decode_uint32_rest h₂
      simp only [reduceCtorEq, false_iff]
      omega

namespace Packet

/-- The payload is at most `max` bytes. -/
def Fits (max : UInt32) (p : Packet) : Prop :=
  p.payload.length ≤ max.toNat

instance (max : UInt32) (p : Packet) : Decidable (p.Fits max) :=
  inferInstanceAs (Decidable (p.payload.length ≤ max.toNat))

/-- The bytes of a packet on the wire, where it fits. -/
def bytes (p : Packet) : Bytes :=
  Header.bytes ⟨p.message, UInt32.ofNat p.payload.length⟩ ++ p.payload

theorem frame_of_fits {max : UInt32} {p : Packet} (h : p.Fits max) :
    p.frame max = .ok p.bytes := by
  unfold frame
  exact if_pos h

@[simp] theorem length_bytes (p : Packet) : p.bytes.length = headerSize + p.payload.length := by
  rw [bytes, List.length_append, Header.length_bytes]

theorem Fits.toNat_size {max : UInt32} {p : Packet} (h : p.Fits max) :
    (UInt32.ofNat p.payload.length).toNat = p.payload.length :=
  UInt32.toNat_ofNat_of_lt' (Nat.lt_of_le_of_lt h max.toNat_lt)

/-- A packet that fits declares no more than the maximum. -/
theorem Fits.not_max_lt {max : UInt32} {p : Packet} (h : p.Fits max) :
    ¬ max < UInt32.ofNat p.payload.length := by
  rw [UInt32.lt_iff_toNat_lt, h.toNat_size]
  exact Nat.not_lt.2 h

theorem peek?_bytes_append (p : Packet) (rest : Bytes) :
    Header.peek? (p.bytes ++ rest) = some ⟨p.message, UInt32.ofNat p.payload.length⟩ := by
  rw [bytes, List.append_assoc, Header.peek?_bytes_append]

theorem drop_bytes_append (p : Packet) (rest : Bytes) :
    (p.bytes ++ rest).drop headerSize = p.payload ++ rest := by
  rw [bytes, List.append_assoc, List.drop_left' (Header.length_bytes _)]

end Packet

/-- A whole frame at the front is taken for what it is. -/
theorem Front.of_bytes_append {max : UInt32} {p : Packet} (h : p.Fits max) (rest : Bytes) :
    Front.of max (p.bytes ++ rest) = .whole p rest := by
  simp only [Front.of, p.peek?_bytes_append, p.drop_bytes_append, h.toNat_size, if_neg h.not_max_lt,
    takeExactly_append]

theorem holdsFrame_bytes_append {max : UInt32} {p : Packet} (h : p.Fits max) (rest : Bytes) :
    holdsFrame (p.bytes ++ rest) = true := by
  simp only [holdsFrame, p.peek?_bytes_append, p.drop_bytes_append, h.toNat_size, takeExactly_append,
    Option.isSome_some]

/-! ### The beginning of a frame -/

/-- Bytes that begin a frame and do not end it; none at all are such, too. -/
def Unfinished (max : UInt32) (bs : Bytes) : Prop :=
  ∃ p : Packet, p.Fits max ∧ ∃ more : Bytes, more ≠ [] ∧ bs ++ more = p.bytes

theorem unfinished_nil (max : UInt32) : Unfinished max [] :=
  ⟨⟨0, []⟩, Nat.zero_le _, Packet.bytes ⟨0, []⟩, by decide, rfl⟩

theorem Unfinished.length_lt {max : UInt32} {bs : Bytes} (h : Unfinished max bs) :
    bs.length < headerSize + max.toNat := by
  obtain ⟨p, hfits, more, hmore, heq⟩ := h
  have hlen := congrArg List.length heq
  rw [List.length_append, Packet.length_bytes] at hlen
  have hpos := List.length_pos_iff.2 hmore
  have hle : p.payload.length ≤ max.toNat := hfits
  omega

/-- Of a frame that has begun, either the header is not there yet, or it is and
declares more than has come. -/
theorem Unfinished.header {max : UInt32} {bs : Bytes} (h : Unfinished max bs) :
    Header.peek? bs = none ∨ ∃ header : Header, Header.peek? bs = some header ∧
      ¬ max < header.size ∧ takeExactly header.size.toNat (bs.drop headerSize) = none := by
  obtain ⟨p, hfits, more, hmore, heq⟩ := h
  rcases Nat.lt_or_ge bs.length headerSize with hlt | hge
  · exact .inl (Header.peek?_eq_none_iff.2 hlt)
  · right
    refine ⟨⟨p.message, UInt32.ofNat p.payload.length⟩, ?_, hfits.not_max_lt, ?_⟩
    · -- the header's eight bytes are all among those that have come
      have htake : bs = Header.bytes ⟨p.message, UInt32.ofNat p.payload.length⟩
          ++ bs.drop headerSize := by
        have hfront := congrArg (List.take headerSize) heq
        rw [List.take_append_of_le_length hge, Packet.bytes,
          List.take_left' (Header.length_bytes _)] at hfront
        rw [← hfront, List.take_append_drop]
      rw [htake, Header.peek?_bytes_append]
    · rw [takeExactly_eq_none_iff, hfits.toNat_size, List.length_drop]
      have hlen := congrArg List.length heq
      rw [List.length_append, Packet.length_bytes] at hlen
      have hpos := List.length_pos_iff.2 hmore
      omega

theorem Unfinished.front {max : UInt32} {bs : Bytes} (h : Unfinished max bs) :
    Front.of max bs = .incomplete := by
  unfold Front.of
  rcases h.header with hnone | ⟨header, hpeek, hsize, hshort⟩
  · simp only [hnone]
  · simp only [hpeek, if_neg hsize, hshort]

theorem Unfinished.holdsFrame {max : UInt32} {bs : Bytes} (h : Unfinished max bs) :
    holdsFrame bs = false := by
  unfold SensorBroker.holdsFrame
  rcases h.header with hnone | ⟨header, hpeek, -, hshort⟩
  · simp only [hnone]
  · simp only [hpeek, hshort, Option.isSome_none]

end SensorBroker
