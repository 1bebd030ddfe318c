/-
# A receiver gets what was framed

Both ends of a channel receive alike: what a read brings is added to the
buffer, and passes are made until no whole frame is left. A receiver that
reads the frames of some packets, in whatever pieces, gets these packets.

Key theorems: `Client.foldl_absorb`, `Client.foldl_absorb_frames`.
-/
import SensorBroker.Channel.Client
import SensorBroker.Proofs.Wire.Reassembly

namespace SensorBroker

/-- Packets that fit have frames, and these make up their stream. -/
theorem exists_frames {max : UInt32} : ∀ {packets : List Packet}, (∀ p ∈ packets, p.Fits max) →
    ∃ frames : List Bytes, packets.map (fun p => p.frame max) = frames.map .ok ∧
      frames.flatten = stream packets
  | [], _ => ⟨[], rfl, rfl⟩
  | p :: packets, h => by
    obtain ⟨frames, hframes, hstream⟩ :=
      exists_frames fun q hq => h q (List.mem_cons_of_mem _ hq)
    refine ⟨p.bytes :: frames, ?_, ?_⟩
    · rw [List.map_cons, List.map_cons, hframes, Packet.frame_of_fits (h p List.mem_cons_self)]
    · rw [List.flatten_cons, hstream, stream_cons]

namespace Client

/-- A client takes in reads as any receiver does, and keeps the packets. -/
theorem foldl_absorb : ∀ (reads : List Bytes) (c : Client),
    reads.foldl absorb c =
      { c with
        buffer := (c.framing.absorbAll c.buffer reads).buffer
        ready := c.ready ++ (c.framing.absorbAll c.buffer reads).packets }
  | [], c => by simp [Framing.absorbAll]
  | chunk :: rest, c => by
    rw [List.foldl_cons, foldl_absorb rest]
    simp [absorb, Framing.absorbAll]

/-- **Reassembly.** However the frames of some packets are cut into reads, a
receiver takes exactly these packets, in order, without dropping anything;
every read fits into its buffer, and the buffer is empty in the end. -/
theorem foldl_absorb_frames {f : Framing} (hlimit : 1 ≤ f.passLimit) {packets : List Packet}
    (hfit : ∀ p ∈ packets, p.payload.length ≤ f.maxPacketSize.toNat) :
    ∃ frames : List Bytes, packets.map (fun p => p.frame f.maxPacketSize) = frames.map .ok ∧
      ∀ reads : List Bytes, reads.flatten = frames.flatten →
        (∀ r ∈ reads, r.length ≤ f.readChunk) →
        f.absorbAll f.buffer reads = ⟨packets, f.buffer, 0⟩ ∧
        reads.foldl absorb ⟨f, f.buffer, []⟩ = ⟨f, f.buffer, packets⟩ ∧
        ∀ before chunk after, reads = before ++ chunk :: after →
          ((f.absorbAll f.buffer before).buffer.write? chunk).isSome := by
  obtain ⟨frames, hframes, hstream⟩ := exists_frames hfit
  refine ⟨frames, hframes, fun reads hcut hreads => ?_⟩
  rw [hstream] at hcut
  have hempty : Unfinished f.maxPacketSize [] := unfinished_nil f.maxPacketSize
  have hall : f.absorbAll f.buffer reads = ⟨packets, f.buffer, 0⟩ := by
    have hwhole : ([] : Bytes) ++ (reads.flatten ++ []) = stream packets := by
      rw [List.nil_append, List.append_nil, hcut]
    obtain ⟨ps, qs, part, rfl, hafter, hpart, habsorbed⟩ :=
      Framing.absorbAll_prefix hlimit hfit hreads hempty hwhole
    rw [List.append_nil] at hafter
    have hqs : qs = [] := eq_nil_of_unfinished_stream
      (fun p hp => hfit p (List.mem_append_right _ hp)) (hafter ▸ hpart)
    rw [hqs, stream_nil] at hafter
    rw [hafter] at habsorbed
    rw [hqs, List.append_nil]
    exact habsorbed
  refine ⟨hall, ?_, ?_⟩
  · rw [foldl_absorb, hall, List.nil_append]
  · rintro before chunk after rfl
    rw [List.flatten_append, List.flatten_cons] at hcut
    obtain ⟨ps, qs, part, -, -, hpart, habsorbed⟩ := Framing.absorbAll_prefix hlimit hfit
      (fun r hr => hreads r (List.mem_append_left _ hr)) hempty hcut
    have hwrite := Framing.write?_holding hpart
      (hreads chunk (List.mem_append_right _ List.mem_cons_self))
    have hbuffer : (f.absorbAll f.buffer before).buffer = f.holding part :=
      congrArg Absorbed.buffer habsorbed
    rw [hbuffer, hwrite]
    rfl

/-- Two packets, one frame to a pass and at most five bytes to a read. -/
theorem foldl_absorb_two_frames :
    ∃ frames : List Bytes,
      ([⟨1, [170, 187]⟩, ⟨2, []⟩] : List Packet).map (fun p => p.frame 4) = frames.map .ok ∧
      ∀ reads : List Bytes, reads.flatten = frames.flatten → (∀ r ∈ reads, r.length ≤ 5) →
        reads.foldl absorb ⟨⟨4, 1, 5⟩, Framing.buffer ⟨4, 1, 5⟩, []⟩ =
          ⟨⟨4, 1, 5⟩, Framing.buffer ⟨4, 1, 5⟩, [⟨1, [170, 187]⟩, ⟨2, []⟩]⟩ := by
  have hfit : ∀ p ∈ ([⟨1, [170, 187]⟩, ⟨2, []⟩] : List Packet),
      p.payload.length ≤ (4 : UInt32).toNat := by decide
  obtain ⟨frames, hframes, hall⟩ := foldl_absorb_frames (f := ⟨4, 1, 5⟩) (Nat.le_refl 1) hfit
  exact ⟨frames, hframes, fun reads hcut hreads => (hall reads hcut hreads).2.1⟩

end Client
end SensorBroker
