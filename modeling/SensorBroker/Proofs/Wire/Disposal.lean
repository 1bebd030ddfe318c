/-
# What becomes of the bytes that are read

A receiver does one of three things with a byte it has read: it hands it out in
a frame, it drops it, or it holds it still. Bytes are dropped for two reasons
only. A header at the front declares more than the maximum, and then all that is
held is dropped; or a read does not fit, and then all that is held is dropped
with the read. A receiver reads on only when it holds no whole frame.

This is an account of a receiver that says nothing of passes, of how many frames
one may take, or of how resets are counted (`Framing.Disposes`). Whatever limit
a receiver sets to its passes, it disposes of its reads in this way, it hands out
the packets of the account, and it counts one reset for each time that it drops
bytes (`Framing.disposes_absorbAll`).

Key definitions: `Portion`, `Framing.Waits`, `Framing.Disposes`.
Key theorems: `Framing.Disposes.bytes`, `Framing.disposes_absorb`,
`Framing.disposes_absorbAll`.
-/
import SensorBroker.Proofs.Wire.PassLimit

namespace SensorBroker

/-- Bytes of which a receiver has disposed. -/
inductive Portion
  /-- A frame, which was handed out as a packet. -/
  | frame (p : Packet)
  /-- What was dropped at one time. -/
  | dropped (run : Bytes)
deriving DecidableEq

namespace Portion

def bytes : Portion → Bytes
  | .frame p => p.bytes
  | .dropped run => run

def packet? : Portion → Option Packet
  | .frame p => some p
  | .dropped _ => none

def dropped? : Portion → Option Bytes
  | .frame _ => none
  | .dropped run => some run

end Portion

/-- The packets that were handed out, in order. -/
def handedOut (portions : List Portion) : List Packet :=
  portions.filterMap Portion.packet?

/-- The bytes that were dropped, each time. -/
def droppings (portions : List Portion) : List Bytes :=
  portions.filterMap Portion.dropped?

theorem handedOut_append (xs ys : List Portion) :
    handedOut (xs ++ ys) = handedOut xs ++ handedOut ys :=
  List.filterMap_append

theorem droppings_append (xs ys : List Portion) :
    droppings (xs ++ ys) = droppings xs ++ droppings ys :=
  List.filterMap_append

@[simp] theorem handedOut_frames : ∀ packets : List Packet,
    handedOut (packets.map .frame) = packets
  | [] => rfl
  | p :: packets => congrArg (p :: ·) (handedOut_frames packets)

@[simp] theorem droppings_frames : ∀ packets : List Packet,
    droppings (packets.map .frame) = []
  | [] => rfl
  | _ :: packets => droppings_frames packets

namespace Framing

/-- A receiver that holds these bytes waits for more: they start with no whole
frame. -/
def Waits (f : Framing) (held : Bytes) : Prop :=
  ∀ p rest, Front.of f.maxPacketSize held ≠ .whole p rest

theorem waits_nil (f : Framing) : f.Waits [] := by
  intro p rest h
  rw [(unfinished_nil f.maxPacketSize).front] at h
  cases h

/-- A receiver that holds some bytes makes reads, disposes of bytes and holds
others in the end. -/
inductive Disposes (f : Framing) : Bytes → List Bytes → List Portion → Bytes → Prop
  | done {held : Bytes} (waits : f.Waits held) : Disposes f held [] [] held
  | frame {held rest held' : Bytes} {reads : List Bytes} {portions : List Portion} {p : Packet}
    (front : Front.of f.maxPacketSize held = .whole p rest)
    (later : Disposes f rest reads portions held') :
    Disposes f held reads (.frame p :: portions) held'
  /-- The header at the front declares too much. -/
  | corrupt {held held' : Bytes} {reads : List Bytes} {portions : List Portion}
    (front : Front.of f.maxPacketSize held = .oversized)
    (later : Disposes f [] reads portions held') :
    Disposes f held reads (.dropped held :: portions) held'
  | read {held chunk held' : Bytes} {reads : List Bytes} {portions : List Portion}
    (waits : f.Waits held) (fits : held.length + chunk.length ≤ f.buffer.limit)
    (later : Disposes f (held ++ chunk) reads portions held') :
    Disposes f held (chunk :: reads) portions held'
  /-- A read does not fit. -/
  | overflow {held chunk held' : Bytes} {reads : List Bytes} {portions : List Portion}
    (waits : f.Waits held) (full : f.buffer.limit < held.length + chunk.length)
    (later : Disposes f [] reads portions held') :
    Disposes f held (chunk :: reads) (.dropped (held ++ chunk) :: portions) held'

variable {f : Framing} {held held' : Bytes} {reads : List Bytes} {portions : List Portion}

/-- **No byte is lost but those that are dropped**, and none comes from elsewhere. -/
theorem Disposes.bytes (h : f.Disposes held reads portions held') :
    portions.flatMap Portion.bytes ++ held' = held ++ reads.flatten := by
  induction h with
  | done _ => simp
  | frame front _ ih =>
    rw [List.flatMap_cons, List.append_assoc, ih, (Front.eq_bytes_append_of_whole front).2,
      List.append_assoc]
    rfl
  | corrupt _ _ ih =>
    rw [List.flatMap_cons, List.append_assoc, ih]
    rfl
  | read _ _ _ ih => rw [ih, List.flatten_cons, List.append_assoc]
  | overflow _ _ _ ih =>
    rw [List.flatMap_cons, List.append_assoc, ih, List.flatten_cons]
    exact List.append_assoc ..

/-- The whole frames at the front are handed out first. -/
theorem Disposes.of_divide {bs : Bytes}
    (h : f.Disposes (divide f.maxPacketSize bs).2 reads portions held') :
    f.Disposes bs reads ((divide f.maxPacketSize bs).1.map .frame ++ portions) held' := by
  fun_induction divide f.maxPacketSize bs with
  | case1 bs p rest front ih => exact .frame front (ih h)
  | case2 => exact h
  | case3 => exact h

/-! ### What receivers do -/

/-- A receiver, between two reads, that has this framing. -/
structure Ready (f : Framing) (b : ReceiveBuffer) : Prop where
  limit : b.limit = f.buffer.limit
  waits : f.Waits b.unread

theorem ready_buffer (f : Framing) : f.Ready f.buffer :=
  ⟨rfl, f.waits_nil⟩

/-- **One read**: the packets that it brings are handed out, and each of the
resets that it brings is a time that bytes were dropped. -/
theorem disposes_absorb (hpass : 1 ≤ f.passLimit) {b : ReceiveBuffer} (hb : f.Ready b)
    (chunk : Bytes) :
    f.Ready (f.absorb b chunk).buffer ∧
      ∃ now, handedOut now = (f.absorb b chunk).packets ∧
        (droppings now).length = (f.absorb b chunk).resets ∧
        ∀ {reads portions held'},
          f.Disposes (f.absorb b chunk).buffer.unread reads portions held' →
            f.Disposes b.unread (chunk :: reads) (now ++ portions) held' := by
  by_cases hfits : b.unread.length + chunk.length ≤ b.limit
  · have habsorb : f.absorb b chunk =
        ⟨(drainBytes f.maxPacketSize f.passLimit (b.unread ++ chunk)).packets,
          { b with unread := (drainBytes f.maxPacketSize f.passLimit (b.unread ++ chunk)).rest },
          (drainBytes f.maxPacketSize f.passLimit (b.unread ++ chunk)).resets⟩ := by
      rw [absorb, ReceiveBuffer.write?, if_pos hfits]
    have hread {reads portions held'}
        (h : f.Disposes (b.unread ++ chunk) reads portions held') :
        f.Disposes b.unread (chunk :: reads) portions held' :=
      .read hb.waits (hb.limit ▸ hfits) h
    rw [habsorb, drainBytes_eq hpass]
    split_ifs with hdrop
    · -- behind the frames there is a header that was looked at
      refine ⟨⟨hb.limit, f.waits_nil⟩,
        (divide f.maxPacketSize (b.unread ++ chunk)).1.map .frame ++
          [.dropped (divide f.maxPacketSize (b.unread ++ chunk)).2], ?_, ?_, fun h => hread ?_⟩
      · rw [handedOut_append, handedOut_frames]
        exact List.append_nil _
      · rw [droppings_append, droppings_frames]
        rfl
      · rw [List.append_assoc]
        exact .of_divide (.corrupt hdrop.1 h)
    · refine ⟨⟨hb.limit, (divide_spec _ _).2.2⟩,
        (divide f.maxPacketSize (b.unread ++ chunk)).1.map .frame, handedOut_frames _, ?_,
        fun h => hread (.of_divide h)⟩
      rw [droppings_frames]
      rfl
  · have habsorb : f.absorb b chunk = ⟨[], b.reset, 1⟩ := by
      rw [absorb, ReceiveBuffer.write?, if_neg hfits]
    rw [habsorb]
    refine ⟨⟨hb.limit, f.waits_nil⟩, [.dropped (b.unread ++ chunk)], rfl, rfl, fun h => ?_⟩
    exact .overflow hb.waits (hb.limit ▸ Nat.lt_of_not_le hfits) h

/-- **Read after read, a receiver disposes of the bytes as the account says**, and
counts a reset for each time that it drops some. -/
theorem disposes_absorbAll (hpass : 1 ≤ f.passLimit) : ∀ (reads : List Bytes) {b : ReceiveBuffer},
    f.Ready b → ∃ portions,
      f.Disposes b.unread reads portions (f.absorbAll b reads).buffer.unread ∧
        handedOut portions = (f.absorbAll b reads).packets ∧
        (droppings portions).length = (f.absorbAll b reads).resets
  | [], _, hb => ⟨[], .done hb.waits, rfl, rfl⟩
  | chunk :: rest, b, hb => by
    obtain ⟨hready, now, hpackets, hresets, hnow⟩ := disposes_absorb hpass hb chunk
    obtain ⟨later, hlater, hpackets', hresets'⟩ := disposes_absorbAll hpass rest hready
    refine ⟨now ++ later, hnow hlater, ?_, ?_⟩
    · rw [handedOut_append, hpackets, hpackets']
      rfl
    · rw [droppings_append, List.length_append, hresets, hresets']
      rfl

theorem absorbAll_append (f : Framing) (more : List Bytes) : ∀ (reads : List Bytes)
    (b : ReceiveBuffer), f.absorbAll b (reads ++ more) =
      ⟨(f.absorbAll b reads).packets ++ (f.absorbAll (f.absorbAll b reads).buffer more).packets,
        (f.absorbAll (f.absorbAll b reads).buffer more).buffer,
        (f.absorbAll b reads).resets + (f.absorbAll (f.absorbAll b reads).buffer more).resets⟩
  | [], b => by simp [absorbAll]
  | chunk :: rest, b => by
    simp only [List.cons_append, absorbAll, absorbAll_append f more rest, List.append_assoc,
      Nat.add_assoc]

end Framing
end SensorBroker
