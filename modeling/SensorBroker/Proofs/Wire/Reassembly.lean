/-
# Frames come out of the stream as they went in

However the bytes of a sequence of frames are cut into reads, a receiver that
takes in one read after the other gets just the packets of these frames, in
order, drops nothing and holds nothing in the end.

What makes this true of every cut is the invariant that between reads the
receiver holds a beginning of the next frame that is shorter than the frame
(`Unfinished`). It is what is left over when a prefix of the stream is divided into
whole frames, and being shorter than one frame it leaves room for a read.

Key definitions: `stream`, `Framing.absorbAll`, `Framing.holding`.
Key theorems: `Pass.run_stream`, `drainBytes_stream`, `exists_cut`,
`Framing.absorb_stream`, `Framing.absorbAll_prefix`.
-/
import Mathlib.Tactic.ByContra
import SensorBroker.Proofs.Wire.Frame

namespace SensorBroker

/-! ### Draining whole frames -/

/-- The frames of some packets, one behind the other. -/
def stream (packets : List Packet) : Bytes :=
  packets.flatMap Packet.bytes

@[simp] theorem stream_nil : stream [] = [] := rfl

@[simp] theorem stream_cons (p : Packet) (packets : List Packet) :
    stream (p :: packets) = p.bytes ++ stream packets := rfl

theorem stream_append (ps qs : List Packet) : stream (ps ++ qs) = stream ps ++ stream qs :=
  List.flatMap_append

theorem length_stream_pos {packets : List Packet} (h : packets ≠ []) :
    0 < (stream packets).length := by
  cases packets with
  | nil => exact absurd rfl h
  | cons p rest =>
    rw [stream_cons, List.length_append, Packet.length_bytes, headerSize]
    omega

/-- One pass takes the first packets, as many as it may. -/
theorem Pass.run_stream {max : UInt32} {part : Bytes} (hpart : Unfinished max part) :
    ∀ (limit : Nat) (packets : List Packet), (∀ p ∈ packets, p.Fits max) →
      Pass.run max limit (stream packets ++ part) =
        ⟨packets.take limit, stream (packets.drop limit) ++ part, false⟩
  | 0, _, _ => rfl
  | limit + 1, [], _ => by simp [Pass.run, hpart.front]
  | limit + 1, p :: packets, h => by
    have hp : p.Fits max := h p List.mem_cons_self
    have hrest := Pass.run_stream hpart limit packets fun q hq => h q (List.mem_cons_of_mem _ hq)
    rw [stream_cons, List.append_assoc, Pass.run, Front.of_bytes_append hp]
    simp only
    split
    · next hempty =>
      obtain ⟨hstream, hpart'⟩ := List.append_eq_nil_iff.1 (List.isEmpty_iff.1 hempty)
      have hnil : packets = [] := by
        by_contra hne
        have hpos := length_stream_pos hne
        rw [hstream, List.length_nil] at hpos
        omega
      simp [hnil, hpart']
    · rw [hrest]
      rfl

/-- Passes are made until the packets are all taken. -/
theorem drainBytes_stream {max : UInt32} {limit : Nat} (hlimit : 1 ≤ limit) {part : Bytes}
    (hpart : Unfinished max part) (packets : List Packet) (h : ∀ p ∈ packets, p.Fits max) :
    drainBytes max limit (stream packets ++ part) = ⟨packets, part, 0⟩ := by
  rw [drainBytes, Pass.run_stream hpart limit packets h]
  cases hdrop : packets.drop limit with
  | nil =>
    have htake : packets.take limit = packets :=
      List.take_of_length_le (List.drop_eq_nil_iff.1 hdrop)
    simp [Pass.more, hpart.holdsFrame, htake]
  | cons q rest =>
    have hq : q.Fits max := h q (List.mem_of_mem_drop (hdrop ▸ List.mem_cons_self))
    have hlen : rest.length + 1 = packets.length - limit := by
      rw [← List.length_drop, hdrop, List.length_cons]
    -- the pass has taken a packet, so what is left is shorter
    have htaken : packets.take limit ≠ [] := by
      rw [ne_eq, List.take_eq_nil_iff, not_or]
      exact ⟨by omega, fun hnil => by rw [hnil] at hdrop; simp at hdrop⟩
    have hsplit : stream packets = stream (packets.take limit) ++ stream (q :: rest) := by
      rw [← hdrop, ← stream_append, List.take_append_drop]
    have hshorter : (stream (q :: rest) ++ part).length < (stream packets ++ part).length := by
      have hpos := length_stream_pos htaken
      simp only [hsplit, List.length_append]
      omega
    have hmore : holdsFrame (stream (q :: rest) ++ part) = true := by
      rw [stream_cons, List.append_assoc]
      exact holdsFrame_bytes_append hq _
    have ih := drainBytes_stream hlimit hpart (q :: rest) fun p hp =>
      h p (List.mem_of_mem_drop (hdrop ▸ hp))
    simp only [Pass.more, hmore, Bool.not_false, Bool.true_and, true_and]
    rw [dif_pos hshorter, ih]
    simp only [Bool.false_eq_true, ↓reduceIte, Nat.add_zero, ← hdrop, List.take_append_drop]
termination_by packets.length

/-! ### Cutting the stream -/

/-- A beginning of the stream is some whole frames and a beginning of the
next. -/
theorem exists_cut {max : UInt32} : ∀ {packets : List Packet}, (∀ p ∈ packets, p.Fits max) →
    ∀ {before after : Bytes}, before ++ after = stream packets →
      ∃ ps qs part, packets = ps ++ qs ∧ before = stream ps ++ part ∧
        part ++ after = stream qs ∧ Unfinished max part
  | [], _, before, after, heq => by
    obtain ⟨rfl, rfl⟩ := List.append_eq_nil_iff.1 heq
    exact ⟨[], [], [], rfl, rfl, rfl, unfinished_nil max⟩
  | p :: packets, h, before, after, heq => by
    rw [stream_cons] at heq
    rcases Nat.lt_or_ge before.length p.bytes.length with hlt | hge
    · refine ⟨[], p :: packets, before, rfl, rfl, heq, p, h p List.mem_cons_self,
        p.bytes.drop before.length, ?_, ?_⟩
      · rw [ne_eq, List.drop_eq_nil_iff]
        omega
      · have hfront := congrArg (List.take before.length) heq
        rw [List.take_left, List.take_append_of_le_length (Nat.le_of_lt hlt)] at hfront
        rw [hfront, List.length_take, Nat.min_eq_left (Nat.le_of_lt hlt), List.take_append_drop]
    · have hfront := congrArg (List.take p.bytes.length) heq
      rw [List.take_append_of_le_length hge, List.take_left] at hfront
      have hback := congrArg (List.drop p.bytes.length) heq
      rw [List.drop_append_of_le_length hge, List.drop_left] at hback
      obtain ⟨ps, qs, part, rfl, hbefore, hafter, hpart⟩ :=
        exists_cut (fun q hq => h q (List.mem_cons_of_mem _ hq)) hback
      refine ⟨p :: ps, qs, part, rfl, ?_, hafter, hpart⟩
      rw [stream_cons, List.append_assoc, ← hbefore]
      conv_lhs => rw [← List.take_append_drop p.bytes.length before, hfront]

/-- Whole frames are not the beginning of one, unless there are none. -/
theorem eq_nil_of_unfinished_stream {max : UInt32} {packets : List Packet}
    (h : ∀ p ∈ packets, p.Fits max) (hu : Unfinished max (stream packets)) : packets = [] := by
  cases packets with
  | nil => rfl
  | cons p rest =>
    have hfront := hu.front
    rw [stream_cons, Front.of_bytes_append (h p List.mem_cons_self)] at hfront
    cases hfront

/-! ### Taking in one read after the other -/

namespace Framing

/-- What a receiver does with reads, one after the other. -/
def absorbAll (f : Framing) (b : ReceiveBuffer) : List Bytes → Absorbed
  | [] => ⟨[], b, 0⟩
  | chunk :: rest =>
    let now := f.absorb b chunk
    let later := f.absorbAll now.buffer rest
    ⟨now.packets ++ later.packets, later.buffer, now.resets + later.resets⟩

/-- The buffer of a receiver that holds some bytes. -/
def holding (f : Framing) (held : Bytes) : ReceiveBuffer :=
  { f.buffer with unread := held }

theorem write?_holding {f : Framing} {held chunk : Bytes} (hheld : Unfinished f.maxPacketSize held)
    (hchunk : chunk.length ≤ f.readChunk) :
    (f.holding held).write? chunk = some (f.holding (held ++ chunk)) := by
  have hlen := hheld.length_lt
  have hroom : held.length + chunk.length ≤ headerSize + f.maxPacketSize.toNat + f.readChunk := by
    omega
  exact if_pos hroom

/-- One read of a stream of frames. -/
theorem absorb_stream {f : Framing} (hlimit : 1 ≤ f.passLimit) {held chunk part : Bytes}
    {packets : List Packet} (hheld : Unfinished f.maxPacketSize held)
    (hchunk : chunk.length ≤ f.readChunk) (hfit : ∀ p ∈ packets, p.Fits f.maxPacketSize)
    (hpart : Unfinished f.maxPacketSize part) (heq : held ++ chunk = stream packets ++ part) :
    f.absorb (f.holding held) chunk = ⟨packets, f.holding part, 0⟩ := by
  have hdrain := drainBytes_stream hlimit hpart packets hfit
  rw [← heq] at hdrain
  have hunread : (f.holding (held ++ chunk)).unread = held ++ chunk := rfl
  simp only [absorb, write?_holding hheld hchunk, hunread, hdrain]
  rfl

/-- **Between reads a receiver has handed out the frames that are whole** and
holds the beginning of the next. -/
theorem absorbAll_prefix {f : Framing} (hlimit : 1 ≤ f.passLimit) :
    ∀ {reads : List Bytes} {packets : List Packet} {held after : Bytes},
      (∀ p ∈ packets, p.Fits f.maxPacketSize) → (∀ r ∈ reads, r.length ≤ f.readChunk) →
      Unfinished f.maxPacketSize held → held ++ (reads.flatten ++ after) = stream packets →
      ∃ ps qs part, packets = ps ++ qs ∧ part ++ after = stream qs ∧
        Unfinished f.maxPacketSize part ∧
        f.absorbAll (f.holding held) reads = ⟨ps, f.holding part, 0⟩
  | [], packets, held, after, _, _, hheld, heq => ⟨[], packets, held, rfl, heq, hheld, rfl⟩
  | chunk :: rest, packets, held, after, hfit, hreads, hheld, heq => by
    rw [List.flatten_cons, List.append_assoc, ← List.append_assoc] at heq
    obtain ⟨ps, qs, part, rfl, hbefore, hafter, hpart⟩ := exists_cut hfit heq
    have hnow := absorb_stream hlimit hheld (hreads chunk List.mem_cons_self)
      (fun p hp => hfit p (List.mem_append_left _ hp)) hpart hbefore
    obtain ⟨ps', qs', part', rfl, hafter', hpart', hlater⟩ := absorbAll_prefix hlimit
      (fun p hp => hfit p (List.mem_append_right _ hp))
      (fun r hr => hreads r (List.mem_cons_of_mem _ hr)) hpart hafter
    refine ⟨ps ++ ps', qs', part', (List.append_assoc ..).symm, hafter', hpart', ?_⟩
    simp only [absorbAll, hnow, hlater]

end Framing
end SensorBroker
