/-
# What is told when an event is passed on

A sample is told to each subscriber that has a data channel, the end of a flush
to the channel which the oldest request for one names (`Broker.noticesOf`). What
is told to a data channel is on its way then, unless a send on it failed, and
each frame reads back as the event it was made of.

Key definitions: `Broker.Notice`, `Broker.framesOf`, `Broker.noticesOf`,
`Broker.noticesOfEach`.
Key theorems: `Broker.Notice.read_back`, `Broker.Orderly.relays_route`,
`Broker.Regular.relays_foldl_route`, `Broker.sample_of_mem_noticesOfEach`.
-/
import Mathlib.Data.List.Nodup
import SensorBroker.Proofs.Service.Carrying
import SensorBroker.Proofs.Service.Queueing
import SensorBroker.Proofs.Wire.Reassembly
import SensorBroker.Proofs.Wire.Records

namespace SensorBroker
namespace Broker

/-- An event, and as what a client is told of it. -/
structure Notice where
  message : Message
  event : Event
deriving DecidableEq

namespace Notice

/-- The packet of a notice. -/
def packet (n : Notice) : Packet :=
  .ofRecord .event n.message n.event

/-- A packet is at the front of what follows from its frame on, says what it is,
and holds its event. -/
theorem read_back {n : Notice} {max : UInt32} (h : n.packet.Fits max) (rest : Bytes) :
    Front.of max (n.packet.bytes ++ rest) = .whole n.packet rest ∧
      n.packet.kind = .ok n.message ∧ n.packet.record .event = .ok n.event :=
  ⟨Front.of_bytes_append h rest, Packet.kind_ofRecord .event n.message n.event,
    Packet.record_of_fits h⟩

end Notice

/-- The frames of notices, one after the other. -/
def framesOf (notices : List Notice) : Bytes :=
  stream (notices.map Notice.packet)

theorem framesOf_append (ns ms : List Notice) :
    framesOf (ns ++ ms) = framesOf ns ++ framesOf ms := by
  rw [framesOf, List.map_append, stream_append]
  rfl

theorem framesOf_singleton (n : Notice) : framesOf [n] = n.packet.bytes :=
  List.append_nil n.packet.bytes

/-! ### What is told -/

/-- What the data channel of a process is told when an event is passed on. -/
def noticesOf (pid : Pid) (id : ChannelId) (b : Broker) (e : Event) : List Notice :=
  if e.isFlushComplete then
    match (b.flushes.complete e.sensor).1 with
    | some entry => if entry.channel = id then [⟨.flushComplete, e⟩] else []
    | none => []
  else if (b.registry.subscription pid e.sensor).isSome then [⟨.sensorEvent, e⟩] else []

/-- What the data channel of a process is told when events are passed on, one
after the other. -/
def noticesOfEach (pid : Pid) (id : ChannelId) : List Event → Broker → List Notice
  | [], _ => []
  | e :: rest, b => noticesOf pid id b e ++ noticesOfEach pid id rest (b.route e)

variable {b b' : Broker} {pid : Pid} {id : ChannelId}

/-! ### What is told is sent -/

theorem frame?_of_fits {m : Message} {e : Event}
    (h : (Notice.mk m e).packet.Fits b.config.transport.maxPacketSize) :
    b.frame? m e = some (Notice.mk m e).packet.bytes := by
  have hframe : (Packet.ofRecord .event m e).frame b.config.transport.maxPacketSize =
      .ok (Notice.mk m e).packet.bytes := Packet.frame_of_fits h
  unfold frame? Packet.frame?
  rw [hframe]
  rfl

/-- No two subscribers of a sensor have one channel. -/
theorem Orderly.nodup_activeChannels (h : b.Orderly) (s : SensorId) :
    (b.registry.activeChannels s).Nodup := by
  refine List.Nodup.filterMap (fun pid pid' id hid hid' => ?_) (Table.nodup_keys _)
  exact h.eq_of_current (Option.mem_def.1 hid') (Option.mem_def.1 hid)

theorem Orderly.mem_activeChannels_iff (h : b.Orderly)
    (hcurrent : b.registry.channels.get? pid = some id) {s : SensorId} :
    id ∈ b.registry.activeChannels s ↔ (b.registry.subscription pid s).isSome = true := by
  unfold Registry.activeChannels Registry.subscribers
  rw [List.mem_filterMap, Option.isSome_iff_exists]
  constructor
  · rintro ⟨other, hmem, hother⟩
    rw [h.eq_of_current hcurrent hother] at hmem
    exact (Table.mem_keys_iff _).1 hmem
  · intro hsub
    exact ⟨pid, (Table.mem_keys_iff _).2 hsub, hcurrent⟩

theorem noticesOf_sample {e : Event} (hsample : e.isFlushComplete = false) :
    noticesOf pid id b e =
      if (b.registry.subscription pid e.sensor).isSome then [⟨.sensorEvent, e⟩] else [] := by
  unfold noticesOf
  rw [hsample]
  rfl

theorem Orderly.relays_deliverSample (h : b.Orderly)
    (hcurrent : b.registry.channels.get? pid = some id) {e : Event}
    (hsample : e.isFlushComplete = false)
    (hfits : ∀ n ∈ noticesOf pid id b e, n.packet.Fits b.config.transport.maxPacketSize) :
    Relays pid id (framesOf (noticesOf pid id b e)) b (b.deliverSample e) := by
  have hopen := h.current hcurrent
  -- that the sample is kept first is nothing to channels and subscriptions
  have hmem : id ∈ (b.registry.storeEvent e).activeChannels e.sensor ↔
      (b.registry.subscription pid e.sensor).isSome = true := h.mem_activeChannels_iff hcurrent
  have hnodup : ((b.registry.storeEvent e).activeChannels e.sensor).Nodup :=
    h.nodup_activeChannels e.sensor
  rw [noticesOf_sample hsample] at hfits ⊢
  unfold deliverSample
  by_cases hsub : (b.registry.subscription pid e.sensor).isSome = true
  · rw [if_pos hsub] at hfits ⊢
    have hframe : (b.setRegistry (b.registry.storeEvent e)).frame? .sensorEvent e = some _ :=
      frame?_of_fits (hfits _ List.mem_cons_self)
    have hsent := relays_sendEach (b := b.setRegistry (b.registry.storeEvent e))
      (Notice.mk .sensorEvent e).packet.bytes _ hnodup (hmem.2 hsub) hopen hcurrent
    rw [framesOf_singleton]
    simp only [hframe]
    exact ⟨hsent.carries, hsent.current⟩
  · rw [if_neg hsub]
    simp only
    split
    · exact .of_eq rfl hcurrent
    · next frame _ =>
      obtain ⟨hflow, hstill⟩ := sendEach_of_not_mem frame _
        (b.setRegistry (b.registry.storeEvent e)) fun hin => hsub (hmem.1 hin)
      exact .of_eq hflow (hstill hcurrent)

theorem Orderly.relays_deliverFlush (h : b.Orderly)
    (hcurrent : b.registry.channels.get? pid = some id) {e : Event}
    (hflush : e.isFlushComplete = true)
    (hfits : ∀ n ∈ noticesOf pid id b e, n.packet.Fits b.config.transport.maxPacketSize) :
    Relays pid id (framesOf (noticesOf pid id b e)) b (b.deliverFlush e) := by
  have hopen := h.current hcurrent
  unfold noticesOf at hfits ⊢
  rw [hflush, if_pos rfl] at hfits ⊢
  unfold deliverFlush
  rcases hcomplete : b.flushes.complete e.sensor with ⟨_ | entry, flushes⟩
  · exact .of_eq rfl hcurrent
  · rw [hcomplete] at hfits
    simp only at hfits ⊢
    by_cases hid : entry.channel = id
    · rw [if_pos hid] at hfits ⊢
      have hframe : ({ b with flushes } : Broker).frame? .flushComplete e = some _ :=
        frame?_of_fits (hfits _ List.mem_cons_self)
      have hsent := relays_sendOn (b := { b with flushes }) hopen hcurrent
        (Notice.mk .flushComplete e).packet.bytes
      rw [framesOf_singleton, hid]
      simp only [hframe]
      exact ⟨hsent.carries, hsent.current⟩
    · rw [if_neg hid]
      split
      · exact .of_eq rfl hcurrent
      · next frame _ =>
        obtain ⟨hflow, -, hstill⟩ := sendOn_of_ne { b with flushes } frame (Ne.symm hid)
        exact .of_eq hflow (hstill hcurrent)

/-- **An event that is passed on is told to a data channel as its notices
say.** -/
theorem Orderly.relays_route (h : b.Orderly)
    (hcurrent : b.registry.channels.get? pid = some id) {e : Event}
    (hfits : ∀ n ∈ noticesOf pid id b e, n.packet.Fits b.config.transport.maxPacketSize) :
    Relays pid id (framesOf (noticesOf pid id b e)) b (b.route e) := by
  unfold route
  split
  · next hflush => exact h.relays_deliverFlush hcurrent hflush hfits
  · next hsample => exact h.relays_deliverSample hcurrent (Bool.eq_false_iff.2 hsample) hfits

theorem grows_route (b : Broker) (e : Event) : Grows id b (b.route e) := by
  unfold route
  split
  · unfold deliverFlush
    split
    · exact .of_eq rfl
    · next entry flushes _ =>
      simp only
      split
      · exact .of_eq rfl
      · exact grows_sendOn { b with flushes } _ entry.channel
  · unfold deliverSample
    simp only
    split
    · exact .of_eq rfl
    · exact grows_sendEach _ _ (b.setRegistry (b.registry.storeEvent e))

theorem config_route (b : Broker) (e : Event) : (b.route e).config = b.config := by
  obtain ⟨r, cs, flushes, totals, heq⟩ := b.exists_route e
  rw [heq]
  rfl

theorem grows_foldl_route : ∀ (es : List Event) (b : Broker), Grows id b (es.foldl route b)
  | [], _ => .of_eq rfl
  | e :: rest, b => (b.grows_route e).trans (grows_foldl_route rest _)

/-- Events that are passed on one after the other are told in that order. -/
theorem Regular.relays_foldl_route : ∀ (es : List Event) {b : Broker}, b.Regular →
    b.registry.channels.get? pid = some id →
    (∀ n ∈ noticesOfEach pid id es b, n.packet.Fits b.config.transport.maxPacketSize) →
    Relays pid id (framesOf (noticesOfEach pid id es b)) b (es.foldl Broker.route b)
  | [], _, _, hcurrent, _ => .of_eq rfl hcurrent
  | e :: rest, b, h, hcurrent, hfits => by
    have hhead := h.orderly.relays_route hcurrent fun n hn => hfits n (List.mem_append_left _ hn)
    have hrest (hcurrent : (b.route e).registry.channels.get? pid = some id) :=
      relays_foldl_route rest (h.route e) hcurrent fun n hn => by
        rw [b.config_route e]
        exact hfits n (List.mem_append_right _ hn)
    rw [noticesOfEach, framesOf_append]
    exact hhead.trans hrest (grows_foldl_route rest _)

/-! ### Nobody is told of what it does not subscribe to -/

theorem sample_of_mem_noticesOf {e : Event} {n : Notice} (hn : n ∈ noticesOf pid id b e)
    (hdata : n.message = .sensorEvent) :
    n.event.isFlushComplete = false ∧
      (b.registry.subscription pid n.event.sensor).isSome = true := by
  unfold noticesOf at hn
  split at hn
  · split at hn
    · split_ifs at hn
      · rw [List.mem_singleton.1 hn] at hdata
        cases hdata
      · cases hn
    · cases hn
  · next hsample =>
    split_ifs at hn with hsub
    · rw [List.mem_singleton.1 hn]
      exact ⟨Bool.eq_false_iff.2 hsample, hsub⟩
    · cases hn

/-- Passing events on changes no subscription. -/
theorem sample_of_mem_noticesOfEach : ∀ {es : List Event} {b : Broker} {n : Notice},
    n ∈ noticesOfEach pid id es b → n.message = .sensorEvent →
      n.event.isFlushComplete = false ∧
        (b.registry.subscription pid n.event.sensor).isSome = true
  | [], _, _, hn, _ => (List.not_mem_nil hn).elim
  | e :: rest, b, n, hn, hdata => by
    rcases List.mem_append.1 hn with hn | hn
    · exact sample_of_mem_noticesOf hn hdata
    · obtain ⟨hsample, hsub⟩ := sample_of_mem_noticesOfEach hn hdata
      rw [(b.spares_route e).subscription] at hsub
      exact ⟨hsample, hsub⟩

theorem spares_foldl_route : ∀ (es : List Event) (b : Broker), Spares pid b (es.foldl route b)
  | [], b => .refl b
  | e :: rest, b => (b.spares_route e).trans (spares_foldl_route rest _)

end Broker
end SensorBroker
