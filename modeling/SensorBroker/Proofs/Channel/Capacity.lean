/-
# Whether a frame fits into the queue

A configuration is allowed only if a channel can queue as many bytes as its
largest payload has. What is queued is not a payload, though, but what a socket
leaves of a frame, and a frame is longer than its payload by a header. So of
the frames a configuration allows, sent while nothing is queued, all fit
exactly if the queue can hold the header too; where it cannot, a frame is
refused only where the socket takes less than its header.

Key definitions: `Session.OpenedBy`, `Session.Overflows`.
Key theorems: `Session.send_eq_queueFull_iff`, `Config.frame_fits_iff`.
-/
import SensorBroker.Config.Validation
import SensorBroker.Proofs.Channel.Traffic

namespace SensorBroker

/-! ### What a session is opened with -/

namespace Session

theorem untouched_capacity : Untouched (·.pending.capacity) where
  drainRun s := by
    unfold drainRun
    split <;> rfl
  written _ _ _ := rfl
  enqueue s run := by
    unfold enqueue PendingQueue.push?
    split_ifs <;> rfl

theorem capacity_sendFrame (s : Session) (frame : Bytes) :
    (s.sendFrame frame).2.pending.capacity = s.pending.capacity :=
  untouched_capacity.sendFrame (fun _ _ => rfl) (fun _ _ => rfl) s frame

theorem capacity_flushPending (s : Session) :
    s.flushPending.2.pending.capacity = s.pending.capacity :=
  untouched_capacity.flushPending (fun _ _ => rfl) s

/-- Nothing that happens to a session changes how much it can queue, or how
much a frame of it may carry. -/
theorem bounds_step (s : Session) (op : Op) :
    (s.step op).pending.capacity = s.pending.capacity ∧
      (s.step op).maxPacketSize = s.maxPacketSize := by
  cases op with
  | bind =>
    refine ⟨?_, congrArg (·.2.2) s.traits_bind⟩
    show (s.bind.2).pending.capacity = _
    unfold Session.bind
    split <;> rfl
  | send p =>
    refine ⟨?_, congrArg (·.2.2) (s.traits_send p)⟩
    show (s.send p).2.pending.capacity = _
    unfold send
    split
    · rfl
    · exact s.capacity_sendFrame _
  | sendFrame frame =>
    exact ⟨s.capacity_sendFrame frame, congrArg (·.2.2) (s.traits_sendFrame frame)⟩
  | flushPending =>
    exact ⟨s.capacity_flushPending, congrArg (·.2.2) s.traits_flushPending⟩
  | close => exact ⟨rfl, rfl⟩
  | atClient a => exact ⟨rfl, rfl⟩

/-- A session that settings open, and what becomes of it: whatever is done with
it, and whatever its watcher reads. -/
inductive OpenedBy (t : TransportSettings) : Session → Prop
  | fresh (channel : ChannelId) (pid : Pid) (uid : Uid) (tokenType : Int32) (rule : SocketRule) :
    OpenedBy t (.fresh channel pid uid tokenType t rule)
  | step {s : Session} (h : OpenedBy t s) (op : Op) : OpenedBy t (s.step op)
  | watch {s : Session} (h : OpenedBy t s) (w : Watcher) : OpenedBy t (w.run s).session

end Session

theorem Watcher.capacity_run (w : Watcher) (s : Session) :
    (w.run s).session.pending.capacity = s.pending.capacity := by
  fun_induction Watcher.run w s with
  | case1 => rfl
  | case2 => rfl
  | case3 => rfl
  | case4 w s _ chunk l _ absorbed later ih => exact ih

namespace Session

variable {t : TransportSettings} {s : Session}

/-- A session queues and carries for good what its settings say. -/
theorem OpenedBy.bounds (h : s.OpenedBy t) :
    s.pending.capacity = t.pendingCapacity.toNat ∧ s.maxPacketSize = t.maxPacketSize := by
  induction h with
  | fresh => exact ⟨rfl, rfl⟩
  | step _ op ih =>
    obtain ⟨hcapacity, hmax⟩ := bounds_step _ op
    exact ⟨hcapacity.trans ih.1, hmax.trans ih.2⟩
  | watch _ w ih =>
    exact ⟨(w.capacity_run _).trans ih.1, (congrArg (·.2.2) (w.traits_run _)).trans ih.2⟩

/-! ### A frame that nothing is queued before -/

/-- A result that says that the queue had no room. -/
def Overflows (result : Except ChannelError Unit) : Prop :=
  ∃ channel size capacity, result = .error (.queueFull channel size capacity)

/-- What a send on an empty queue looks at is the same. -/
structure Alike (s s' : Session) : Prop where
  channel : s'.channel = s.channel
  isEmpty : s'.pending.isEmpty = true
  capacity : s'.pending.capacity = s.pending.capacity
  offer (offered : Nat) :
    s'.link.offer? s'.retryLimit offered = s.link.offer? s.retryLimit offered

/-- To write an empty queue is no effort. -/
theorem drainRun_of_isEmpty (hempty : s.pending.isEmpty = true) :
    ∃ s', s.drainRun = (.ok true, s') ∧ s.Alike s' := by
  have hnil : s.pending.bytes.toList = [] := (ByteQueue.isEmpty_iff _).1 hempty
  have hrun : s.pending.firstRun = 0 := by
    have hsize : s.pending.size = 0 := beq_iff_eq.1 hempty
    rw [PendingQueue.firstRun, hsize, Nat.zero_min]
  have hoffer : s.link.offer? s.retryLimit 0 = some ⟨0, 0, s.link.attempt⟩ := by
    unfold Link.offer? SocketRule.press
    simp
  have hsplit : (s.pending.split 0).1 = [] := by
    rw [PendingQueue.split, ByteQueue.split_fst, List.take_zero]
  unfold drainRun
  rw [hrun, hoffer]
  refine ⟨_, rfl, rfl, ?_, rfl, fun offered => ?_⟩
  · refine (ByteQueue.isEmpty_iff _).2 ?_
    show (s.pending.bytes.split 0).2.toList = []
    rw [ByteQueue.split_snd, hnil, List.drop_nil]
  · -- no byte was put on its way, and no attempt made
    simp only [written, Link.carry, Link.offer?, hsplit, ByteQueue.size_eq_length,
      ByteQueue.toList_push, List.append_nil]

theorem drain_of_isEmpty (hempty : s.pending.isEmpty = true) :
    ∃ s', s.drain = (.ok (), s') ∧ s.Alike s' := by
  obtain ⟨s₁, hfirst, halike⟩ := drainRun_of_isEmpty hempty
  obtain ⟨s₂, hsecond, halike'⟩ := drainRun_of_isEmpty halike.isEmpty
  refine ⟨s₂, ?_, halike'.channel.trans halike.channel, halike'.isEmpty,
    halike'.capacity.trans halike.capacity, fun n => (halike'.offer n).trans (halike.offer n)⟩
  unfold drain
  simp only [hfirst, hsecond]

theorem enqueue_eq_queueFull_iff (s : Session) (run : Bytes) {channel : ChannelId}
    {size capacity : Nat} :
    (s.enqueue run).1 = .error (.queueFull channel size capacity) ↔
      (channel = s.channel ∧ size = s.pending.size ∧ capacity = s.pending.capacity) ∧
        capacity - size < run.length := by
  unfold enqueue PendingQueue.push?
  split_ifs with hfull
  · simp only [Except.error.injEq, ChannelError.queueFull.injEq]
    constructor
    · rintro ⟨rfl, rfl, rfl⟩
      exact ⟨⟨rfl, rfl, rfl⟩, hfull⟩
    · rintro ⟨⟨rfl, rfl, rfl⟩, -⟩
      exact ⟨rfl, rfl, rfl⟩
  · simp only [false_iff, not_and]
    rintro ⟨-, rfl, rfl⟩
    exact hfull

/-- What comes of a frame that nothing is queued before: what the socket leaves
of it must fit into the queue. -/
theorem writeFrame_eq_queueFull_iff (hempty : s.pending.isEmpty = true) (frame : Bytes)
    {channel : ChannelId} {size capacity : Nat} :
    (s.writeFrame frame).1 = .error (.queueFull channel size capacity) ↔
      (channel = s.channel ∧ size = 0 ∧ capacity = s.pending.capacity) ∧
        ∃ e, s.link.offer? s.retryLimit frame.length = some e ∧
          e.taken + capacity < frame.length := by
  have hsize : s.pending.size = 0 := beq_iff_eq.1 hempty
  unfold writeFrame
  cases s.link.offer? s.retryLimit frame.length with
  | none => simp [ChannelError.brokenPipe]
  | some e =>
    simp only [Option.some.injEq, exists_eq_left']
    split_ifs with hshort
    · rw [enqueue_eq_queueFull_iff]
      show (channel = s.channel ∧ size = s.pending.size ∧ capacity = s.pending.capacity) ∧
        capacity - size < (frame.drop e.taken).length ↔ _
      rw [hsize, List.length_drop]
      refine and_congr_right ?_
      rintro ⟨-, rfl, -⟩
      omega
    · simp only [false_iff, not_and]
      omega

theorem sendFrame_eq_queueFull_iff (hopen : s.isClosed = false) (hempty : s.pending.isEmpty = true)
    (frame : Bytes) {channel : ChannelId} {size capacity : Nat} :
    (s.sendFrame frame).1 = .error (.queueFull channel size capacity) ↔
      (channel = s.channel ∧ size = 0 ∧ capacity = s.pending.capacity) ∧
        ∃ e, s.link.offer? s.retryLimit frame.length = some e ∧
          e.taken + capacity < frame.length := by
  obtain ⟨s', hdrain, halike⟩ := drain_of_isEmpty hempty
  have hsend : s.sendInOrder frame = s'.writeFrame frame := by
    unfold sendInOrder
    simp only [hdrain, halike.isEmpty, if_pos]
  have hresult : (s.sendFrame frame).1 = (s'.writeFrame frame).1 := by
    unfold sendFrame
    rw [hopen, if_neg Bool.false_ne_true, hsend]
    rcases s'.writeFrame frame with ⟨e | _, s''⟩ <;> rfl
  rw [hresult, writeFrame_eq_queueFull_iff halike.isEmpty, halike.channel, halike.capacity,
    halike.offer]

/-- **When a queue without a byte has no room.** A send on it is refused
exactly if the socket leaves more of the frame than the queue can hold. -/
theorem send_eq_queueFull_iff (hopen : s.isClosed = false) (hempty : s.pending.isEmpty = true)
    {p : Packet} (hfits : p.Fits s.maxPacketSize) {channel : ChannelId} {size capacity : Nat} :
    (s.send p).1 = .error (.queueFull channel size capacity) ↔
      (channel = s.channel ∧ size = 0 ∧ capacity = s.pending.capacity) ∧
        ∃ e, s.link.offer? s.retryLimit p.frameSize = some e ∧ e.taken + capacity < p.frameSize := by
  rw [send_of_fits hfits, sendFrame_eq_queueFull_iff hopen hempty, Packet.length_bytes]
  rfl

end Session

/-! ### Allowed configurations -/

/-- A socket that takes nothing. -/
def SocketRule.stuck : SocketRule :=
  ⟨fun _ _ _ => 0⟩

theorem SocketRule.taken_press_stuck (limit held attempt blocked offered : Nat) :
    (stuck.press limit held attempt blocked offered).taken = 0 := by
  fun_induction SocketRule.press stuck limit held attempt blocked offered with
  | case1 => rfl
  | case2 _ _ _ _ _ _ _ _ _ ih => exact ih
  | case3 => rfl
  | case4 held attempt blocked offered _ n hn => exact absurd (Nat.min_zero offered) hn

/-- An allowed configuration queues its largest payload. -/
theorem Config.maxPacketSize_le_of_validate {c : Config} (h : c.validate = .ok ()) :
    c.transport.maxPacketSize.toNat ≤ c.transport.pendingCapacity.toNat := by
  unfold validate at h
  split at h
  · cases h
  · split at h
    · cases h
    · split at h
      · cases h
      · split_ifs at h with hfits
        exact of_decide_eq_true hfits

/-- A packet that an empty queue has no room for is one whose header the socket
does not take. -/
theorem Config.overflows_send_iff {c : Config} (hc : c.validate = .ok ()) {s : Session}
    (hs : s.OpenedBy c.transport) (hopen : s.isClosed = false) (hempty : s.pending.isEmpty = true)
    {p : Packet} (hfits : p.Fits c.transport.maxPacketSize) :
    Session.Overflows (s.send p).1 ↔
      ∃ e, s.link.offer? s.retryLimit p.frameSize = some e ∧ e.taken < headerSize ∧
        c.transport.pendingCapacity.toNat < p.frameSize - e.taken := by
  obtain ⟨hcapacity, hmax⟩ := hs.bounds
  have hpayload : p.payload.length ≤ c.transport.pendingCapacity.toNat :=
    Nat.le_trans hfits (maxPacketSize_le_of_validate hc)
  have hsize : p.frameSize = headerSize + p.payload.length := rfl
  rw [← hmax] at hfits
  constructor
  · rintro ⟨channel, size, capacity, hfull⟩
    obtain ⟨⟨-, -, rfl⟩, e, hoffer, hshort⟩ :=
      (Session.send_eq_queueFull_iff hopen hempty hfits).1 hfull
    rw [hcapacity] at hshort
    exact ⟨e, hoffer, by omega, by omega⟩
  · rintro ⟨e, hoffer, -, hshort⟩
    refine ⟨s.channel, 0, s.pending.capacity, ?_⟩
    refine (Session.send_eq_queueFull_iff hopen hempty hfits).2 ⟨⟨rfl, rfl, rfl⟩, e, hoffer, ?_⟩
    omega

/-- The largest packet of a configuration, on a socket that takes nothing, is
refused where the queue cannot hold its header as well. -/
theorem Config.overflows_stuck {c : Config} (hc : c.validate = .ok ())
    (hshort : c.transport.pendingCapacity.toNat < headerSize + c.transport.maxPacketSize.toNat) :
    ∃ p : Packet, p.Fits c.transport.maxPacketSize ∧
      Session.Overflows ((Session.fresh 0 0 0 0 c.transport .stuck).send p).1 := by
  let s : Session := .fresh 0 0 0 0 c.transport .stuck
  let p : Packet := ⟨0, List.replicate c.transport.maxPacketSize.toNat 0⟩
  have hlength : p.payload.length = c.transport.maxPacketSize.toNat := List.length_replicate
  have hfits : p.Fits c.transport.maxPacketSize := Nat.le_of_eq hlength
  obtain ⟨e, hoffer, htaken⟩ :
      ∃ e, s.link.offer? s.retryLimit p.frameSize = some e ∧ e.taken = 0 :=
    ⟨_, rfl, SocketRule.taken_press_stuck ..⟩
  have hleft : c.transport.pendingCapacity.toNat < p.frameSize - e.taken := by
    rw [htaken, Packet.frameSize, hlength]
    exact hshort
  have hheader : e.taken < headerSize := by
    rw [htaken]
    decide
  exact ⟨p, hfits, (overflows_send_iff hc (.fresh 0 0 0 0 .stuck) rfl rfl hfits).2
    ⟨e, hoffer, hheader, hleft⟩⟩

/-- **Which frames fit, whatever the socket takes.** Of an allowed
configuration, no packet is refused by an empty queue for want of room exactly
if the queue can hold the header of the largest one as well. A packet that is
refused found a socket that took less than its header. -/
theorem Config.frame_fits_iff {c : Config} (hc : c.validate = .ok ()) :
    ((∀ s : Session, s.OpenedBy c.transport → s.isClosed = false → s.pending.isEmpty = true →
        ∀ p : Packet, p.Fits c.transport.maxPacketSize → ¬ Session.Overflows (s.send p).1) ↔
      headerSize + c.transport.maxPacketSize.toNat ≤ c.transport.pendingCapacity.toNat) ∧
    ∀ s : Session, s.OpenedBy c.transport → s.isClosed = false → s.pending.isEmpty = true →
      ∀ p : Packet, p.Fits c.transport.maxPacketSize →
        (Session.Overflows (s.send p).1 ↔
          ∃ e, s.link.offer? s.retryLimit p.frameSize = some e ∧ e.taken < headerSize ∧
            c.transport.pendingCapacity.toNat < p.frameSize - e.taken) := by
  refine ⟨⟨fun hall => ?_, fun hroom s hs hopen hempty p hfits hfull => ?_⟩,
    fun s hs hopen hempty p hfits => overflows_send_iff hc hs hopen hempty hfits⟩
  · by_contra hshort
    obtain ⟨p, hfits, hfull⟩ := overflows_stuck hc (Nat.not_le.1 hshort)
    exact hall _ (.fresh 0 0 0 0 .stuck) rfl rfl p hfits hfull
  · obtain ⟨e, -, -, hleft⟩ := (overflows_send_iff hc hs hopen hempty hfits).1 hfull
    have hle : p.payload.length ≤ c.transport.maxPacketSize.toNat := hfits
    have hsize : p.frameSize = headerSize + p.payload.length := rfl
    omega

/-- Channels that carry payloads of 64 bytes and queue so many bytes. -/
def Config.carrying64 (capacity : UInt64) : Config :=
  { transport := { maxPacketSize := 64, pendingCapacity := capacity, retryLimit := 1 } }

/-- A session of such a channel whose socket takes nothing. -/
def Session.stuck64 (capacity : UInt64) : Session :=
  .fresh 0 100 1000 0 (Config.carrying64 capacity).transport .stuck

/-- The largest packet of such a channel. -/
def Packet.zeros64 : Packet :=
  ⟨1, List.replicate 64 0⟩

/-- With room for the header, the largest packet is queued whole. -/
theorem Config.queues_header :
    (carrying64 72).validate = .ok () ∧
      ¬ Session.Overflows ((Session.stuck64 72).send Packet.zeros64).1 := by
  have hvalid : (carrying64 72).validate = .ok () := by decide +kernel
  have hfits := (frame_fits_iff hvalid).1.2 (by decide)
  exact ⟨hvalid, hfits _ (.fresh 0 100 1000 0 .stuck) rfl rfl _ (by decide)⟩

/-- Without it, the largest packet of an allowed configuration is refused. -/
theorem Config.refuses_largest :
    (carrying64 64).validate = .ok () ∧ (Session.stuck64 64).OpenedBy (carrying64 64).transport ∧
      (Session.stuck64 64).isClosed = false ∧ (Session.stuck64 64).pending.isEmpty = true ∧
      Packet.zeros64.Fits (carrying64 64).transport.maxPacketSize ∧
      ((Session.stuck64 64).send Packet.zeros64).1 = .error (.queueFull 0 0 64) := by
  refine ⟨by decide +kernel, .fresh 0 100 1000 0 .stuck, rfl, rfl, by decide, ?_⟩
  decide +kernel

end SensorBroker
