/-
# The bytes on their way to a client

What a client has read, what the socket still holds for it and what is queued
behind that are one stream of bytes. Writing, queueing, flushing and reading
only move its bytes along; a send alone adds to it, at its end. Whatever the
socket takes at each attempt, a send that succeeds adds its whole frame.

A send that fails adds nothing, but for one case (`Session.SendAdds.cut`): a frame
longer than the queue, of which the socket has taken a beginning when the
rest does not fit into the queue. The beginning cannot be taken back, so it
stays in the stream; such an error is fatal to the channel
(`Session.cut_frame_stays`).

Key definitions: `Session.outgoing`, `Session.SendAdds`, `Session.Op`,
`Session.run`, `Session.received`, `Session.sends`.
Key theorems: `Session.outgoing_sendFrame`, `Session.received_append_outgoing`.
-/
import Mathlib.Data.List.Forall2
import Mathlib.Tactic.SplitIfs
import SensorBroker.Channel.Session
import SensorBroker.Config.Validation
import SensorBroker.Proofs.Channel.Peer

namespace SensorBroker
namespace Session

/-- The bytes that a client has still to read: those in the socket, then those
that are queued. -/
def outgoing (s : Session) : Bytes :=
  s.link.toClient.toList ++ s.pending.bytes.toList

/-- What a send with a result adds to the stream. -/
inductive SendAdds (frame : Bytes) : Except ChannelError Unit → Bytes → Prop
  | whole : SendAdds frame (.ok ()) frame
  | nothing {e} (intact : ∀ channel capacity, e ≠ .queueFull channel 0 capacity) :
    SendAdds frame (.error e) []
  | cut {channel capacity part} (begins : part <+: frame)
    (overflows : capacity + part.length < frame.length) :
    SendAdds frame (.error (.queueFull channel 0 capacity)) part

/-! ### What writing leaves alone -/

section Untouched
variable {α : Type} {f : Session → α}

/-- A view of a session that neither writing to the socket nor queueing
changes. -/
structure Untouched (f : Session → α) : Prop where
  drainRun (s : Session) : f s.drainRun.2 = f s
  written (s : Session) (e : Effort) (run : Bytes) : f (s.written e run) = f s
  enqueue (s : Session) (run : Bytes) : f (s.enqueue run).2 = f s

/-- What is the same after one run of the queue was written is the same after
all that can be written was. -/
theorem drain_keeps (hrun : ∀ s : Session, f s.drainRun.2 = f s) (s : Session) :
    f s.drain.2 = f s := by
  have hfirst := hrun s
  unfold drain
  split
  · next h => rwa [h] at hfirst
  · next h => rwa [h] at hfirst
  · next s' h =>
    rw [h] at hfirst
    have hsecond := hrun s'
    split
    · next h' =>
      rw [h'] at hsecond
      exact hsecond.trans hfirst
    · next h' =>
      rw [h'] at hsecond
      exact hsecond.trans hfirst

theorem Untouched.drain (h : Untouched f) (s : Session) : f s.drain.2 = f s :=
  drain_keeps h.drainRun s

theorem Untouched.writeFrame (h : Untouched f) (s : Session) (frame : Bytes) :
    f (s.writeFrame frame).2 = f s := by
  unfold Session.writeFrame
  split
  · rfl
  · simp only
    split_ifs
    · exact (h.enqueue _ _).trans (h.written _ _ _)
    · exact h.written _ _ _

/-- A send writes what is queued, then its frame, and queues what is left. -/
theorem Untouched.sendInOrder (h : Untouched f) (s : Session) (frame : Bytes) :
    f (s.sendInOrder frame).2 = f s := by
  have hdrain := h.drain s
  unfold Session.sendInOrder
  rcases hd : s.drain with ⟨e | _, s'⟩
  · rwa [hd] at hdrain
  · rw [hd] at hdrain
    simp only
    split_ifs
    · exact (h.writeFrame s' frame).trans hdrain
    · exact (h.enqueue s' frame).trans hdrain

/-- Beyond writing, a send notes that the session streams, and counts. -/
theorem Untouched.sendFrame (h : Untouched f)
    (hsent : ∀ (s : Session) counters, f { s with state := s.state.sent, counters } = f s)
    (hcounted : ∀ (s : Session) counters, f { s with counters } = f s)
    (s : Session) (frame : Bytes) : f (s.sendFrame frame).2 = f s := by
  have hsend := h.sendInOrder s frame
  unfold Session.sendFrame
  split_ifs
  · rfl
  · rcases hs : s.sendInOrder frame with ⟨e | _, s'⟩
    · rw [hs] at hsend
      exact (hcounted s' _).trans hsend
    · rw [hs] at hsend
      exact (hsent s' _).trans hsend

theorem Untouched.flushPending (h : Untouched f)
    (hcounted : ∀ (s : Session) counters, f { s with counters } = f s) (s : Session) :
    f s.flushPending.2 = f s := by
  have hdrain := h.drain s
  unfold Session.flushPending
  split_ifs
  · rfl
  · rcases hd : s.drain with ⟨e | _, s'⟩
    · rwa [hd] at hdrain
    · rw [hd] at hdrain
      exact (hcounted s' _).trans hdrain

end Untouched

/-! ### Writing what is queued -/

@[simp] theorem outgoing_written (s : Session) (e : Effort) (run : Bytes) :
    (s.written e run).link.toClient.toList = s.link.toClient.toList ++ run := by
  simp [written, Link.carry]

theorem outgoing_drainRun (s : Session) : s.drainRun.2.outgoing = s.outgoing := by
  unfold drainRun
  cases s.link.offer? s.retryLimit s.pending.firstRun with
  | none => rfl
  | some e =>
    have hsplit := s.pending.bytes.toList_split e.taken
    simp only [outgoing, outgoing_written, PendingQueue.split, List.append_assoc, hsplit]

theorem outgoing_drain (s : Session) : s.drain.2.outgoing = s.outgoing :=
  drain_keeps outgoing_drainRun s

/-- Writing what is queued does not fail for want of room. -/
theorem drainRun_error {s s' : Session} {e : ChannelError} (h : s.drainRun = (.error e, s')) :
    e = .brokenPipe := by
  unfold drainRun at h
  split at h
  · cases h; rfl
  · cases h

theorem drain_error {s s' : Session} {e : ChannelError} (h : s.drain = (.error e, s')) :
    e = .brokenPipe := by
  unfold drain at h
  split at h
  · next hr =>
    cases h
    exact drainRun_error hr
  · cases h
  · split at h
    · next hr =>
      cases h
      exact drainRun_error hr
    · cases h

/-! ### Sending -/

theorem outgoing_enqueue (s : Session) (run : Bytes) :
    ((s.enqueue run).1 = .ok () ∧ (s.enqueue run).2.outgoing = s.outgoing ++ run) ∨
      ((s.enqueue run).1 = .error (.queueFull s.channel s.pending.size s.pending.capacity) ∧
        (s.enqueue run).2 = s ∧ s.pending.capacity - s.pending.size < run.length) := by
  unfold enqueue PendingQueue.push?
  split_ifs with hfull
  · exact .inr ⟨rfl, rfl, hfull⟩
  · exact .inl ⟨rfl, by simp [outgoing]⟩

theorem outgoing_writeFrame {s : Session} (hempty : s.pending.isEmpty = true) (frame : Bytes) :
    ∃ part, SendAdds frame (s.writeFrame frame).1 part ∧
      (s.writeFrame frame).2.outgoing = s.outgoing ++ part := by
  have hnil : s.pending.bytes.toList = [] := (ByteQueue.isEmpty_iff _).1 hempty
  unfold writeFrame
  cases s.link.offer? s.retryLimit frame.length with
  | none => exact ⟨[], .nothing fun _ _ h => (by cases h), (List.append_nil _).symm⟩
  | some e =>
    have hwritten : (s.written e (frame.take e.taken)).outgoing
        = s.outgoing ++ frame.take e.taken := by
      rw [outgoing, outgoing_written, outgoing, hnil, List.append_nil]
      show _ ++ s.pending.bytes.toList = _
      rw [hnil, List.append_nil]
    simp only
    split_ifs with hshort
    · rcases outgoing_enqueue (s.written e (frame.take e.taken)) (frame.drop e.taken) with
        ⟨hok, hout⟩ | ⟨herr, hsame, hroom⟩
      · refine ⟨frame, by rw [hok]; exact .whole, ?_⟩
        rw [hout, hwritten, List.append_assoc, List.take_append_drop]
      · have hsize : (s.written e (frame.take e.taken)).pending.size = 0 := by
          show s.pending.bytes.size = 0
          rw [ByteQueue.size_eq_length, hnil, List.length_nil]
        rw [hsize, Nat.sub_zero, List.length_drop] at hroom
        refine ⟨frame.take e.taken, ?_, by rw [hsame, hwritten]⟩
        rw [herr, hsize]
        refine .cut (List.take_prefix _ _) ?_
        rw [List.length_take]
        omega
    · have hall : frame.take e.taken = frame := List.take_of_length_le (by omega)
      exact ⟨frame, .whole, by rw [hwritten, hall]⟩

theorem outgoing_sendInOrder (s : Session) (frame : Bytes) :
    ∃ part, SendAdds frame (s.sendInOrder frame).1 part ∧
      (s.sendInOrder frame).2.outgoing = s.outgoing ++ part := by
  have hdrain := s.outgoing_drain
  unfold sendInOrder
  rcases hd : s.drain with ⟨e | _, s'⟩
  · rw [hd] at hdrain
    have he := drain_error hd
    refine ⟨[], .nothing fun _ _ h => ?_, hdrain.trans (List.append_nil _).symm⟩
    rw [he] at h
    cases h
  · rw [hd] at hdrain
    have hsame : s'.outgoing = s.outgoing := hdrain
    simp only
    split_ifs with hempty
    · rw [← hsame]
      exact outgoing_writeFrame hempty frame
    · rw [← hsame]
      rcases s'.outgoing_enqueue frame with ⟨hok, hout⟩ | ⟨herr, hkept, -⟩
      · exact ⟨frame, by rw [hok]; exact .whole, hout⟩
      · -- behind a backlog the queue is not empty, and the frame was not begun
        have hsize : s'.pending.size ≠ 0 := fun h0 => hempty (beq_iff_eq.2 h0)
        refine ⟨[], ?_, by rw [hkept, List.append_nil]⟩
        rw [herr]
        exact .nothing fun _ _ heq => hsize (ChannelError.queueFull.inj heq).2.1

/-- **A send adds its frame to the stream**, and if it fails nothing, or what
the socket took of a frame too long for the queue. -/
theorem outgoing_sendFrame (s : Session) (frame : Bytes) :
    ∃ part, SendAdds frame (s.sendFrame frame).1 part ∧
      (s.sendFrame frame).2.outgoing = s.outgoing ++ part := by
  unfold sendFrame
  split_ifs
  · exact ⟨[], .nothing fun _ _ h => (by cases h), (List.append_nil _).symm⟩
  · obtain ⟨part, hadds, hout⟩ := s.outgoing_sendInOrder frame
    rcases hs : s.sendInOrder frame with ⟨e | _, s'⟩
    · rw [hs] at hadds hout
      exact ⟨part, hadds, hout⟩
    · rw [hs] at hadds hout
      exact ⟨part, hadds, hout⟩

/-- A packet is sent as its frame, or not at all. -/
theorem outgoing_send (s : Session) (p : Packet) :
    ∃ part, SendAdds ((p.frame? s.maxPacketSize).toOption.getD []) (s.send p).1 part ∧
      (s.send p).2.outgoing = s.outgoing ++ part := by
  unfold send
  cases hf : p.frame? s.maxPacketSize with
  | ok frame => exact s.outgoing_sendFrame frame
  | error e =>
    refine ⟨[], .nothing fun _ _ h => ?_, (List.append_nil _).symm⟩
    rw [h] at hf
    unfold Packet.frame? at hf
    split at hf <;> cases hf

theorem outgoing_flushPending (s : Session) : s.flushPending.2.outgoing = s.outgoing := by
  have hdrain := s.outgoing_drain
  unfold flushPending
  split_ifs
  · rfl
  · rcases hd : s.drain with ⟨e | _, s'⟩
    · rwa [hd] at hdrain
    · rw [hd] at hdrain
      exact hdrain

/-! ### Runs -/

/-- Something that happens to a session. -/
inductive Op
  | bind
  | send (p : Packet)
  | sendFrame (frame : Bytes)
  | flushPending
  | close
  /-- The client does something with its end. -/
  | atClient (a : ClientAct)

/-- The session after something has happened to it. -/
def step (s : Session) : Op → Session
  | .bind => s.bind.2
  | .send p => (s.send p).2
  | .sendFrame frame => (s.sendFrame frame).2
  | .flushPending => s.flushPending.2
  | .close => s.close
  | .atClient a => { s with link := s.link.act a }

/-- The session after a run. -/
def run (s : Session) (ops : List Op) : Session :=
  ops.foldl step s

/-- The bytes that the client gets when something happens. -/
def receivedBy (s : Session) : Op → Bytes
  | .atClient a => s.link.received a
  | _ => []

/-- The bytes that the client gets in a run. -/
def received (s : Session) : List Op → Bytes
  | [] => []
  | op :: ops => s.receivedBy op ++ (s.step op).received ops

/-- The frame that an operation sends, and what came of it. A packet without a
frame is sent as no bytes. -/
def sentBy (s : Session) : Op → Option (Bytes × Except ChannelError Unit)
  | .send p => some (((p.frame? s.maxPacketSize).toOption.getD []), (s.send p).1)
  | .sendFrame frame => some (frame, (s.sendFrame frame).1)
  | _ => none

/-- The frames that were sent in a run, in order, and what came of each. -/
def sends (s : Session) : List Op → List (Bytes × Except ChannelError Unit)
  | [] => []
  | op :: ops => (s.sentBy op).toList ++ (s.step op).sends ops

/-- What one operation does to the stream. -/
theorem receivedBy_append_outgoing (s : Session) (op : Op) :
    ∃ parts : List Bytes,
      List.Forall₂ (fun sent part => SendAdds sent.1 sent.2 part) (s.sentBy op).toList parts ∧
      s.receivedBy op ++ (s.step op).outgoing = s.outgoing ++ parts.flatten := by
  cases op with
  | bind =>
    refine ⟨[], .nil, ?_⟩
    show (s.bind.2).outgoing = s.outgoing ++ []
    rw [List.append_nil]
    unfold Session.bind
    split <;> rfl
  | send p =>
    obtain ⟨part, hadds, hout⟩ := s.outgoing_send p
    exact ⟨[part], .cons hadds .nil, by rw [List.flatten_singleton]; exact hout⟩
  | sendFrame frame =>
    obtain ⟨part, hadds, hout⟩ := s.outgoing_sendFrame frame
    exact ⟨[part], .cons hadds .nil, by rw [List.flatten_singleton]; exact hout⟩
  | flushPending =>
    exact ⟨[], .nil, s.outgoing_flushPending.trans (List.append_nil _).symm⟩
  | close => exact ⟨[], .nil, (List.append_nil _).symm⟩
  | atClient a =>
    refine ⟨[], .nil, ?_⟩
    show s.link.received a ++ ((s.link.act a).toClient.toList ++ s.pending.bytes.toList) = _
    rw [← List.append_assoc, Link.received_append_act, List.flatten_nil, List.append_nil]
    rfl

/-- **Nothing is lost, and nothing slips in.** In any run, the bytes the client
has read, followed by those still on their way, are those that were on their
way before and then what each send added, in order. -/
theorem received_append_outgoing : ∀ (ops : List Op) (s : Session),
    ∃ parts : List Bytes,
      List.Forall₂ (fun sent part => SendAdds sent.1 sent.2 part) (s.sends ops) parts ∧
      s.received ops ++ (s.run ops).outgoing = s.outgoing ++ parts.flatten
  | [], s => ⟨[], .nil, (List.append_nil _).symm⟩
  | op :: ops, s => by
    obtain ⟨now, hnow, hout⟩ := s.receivedBy_append_outgoing op
    obtain ⟨later, hlater, hrest⟩ := received_append_outgoing ops (s.step op)
    refine ⟨now ++ later, List.rel_append hnow hlater, ?_⟩
    calc s.receivedBy op ++ (s.step op).received ops ++ ((s.step op).run ops).outgoing
        = s.receivedBy op ++ ((s.step op).outgoing ++ later.flatten) := by
          rw [List.append_assoc, hrest]
      _ = s.outgoing ++ (now.flatten ++ later.flatten) := by
          rw [← List.append_assoc, hout, List.append_assoc]
      _ = s.outgoing ++ (now ++ later).flatten := by rw [List.flatten_append]

/-- The configuration of a channel that carries payloads of 64 bytes and queues
as many. -/
def tightConfig : Config :=
  { transport := { maxPacketSize := 64, pendingCapacity := 64, retryLimit := 1 } }

/-- A session of such a channel, whose socket takes one byte and then none. -/
def tight : Session :=
  .fresh 0 100 1000 0 tightConfig.transport ⟨fun attempt _ _ => if attempt = 0 then 1 else 0⟩

/-- **A send may fail and leave a byte of its frame in the stream**: here that of
the largest packet that an allowed configuration carries. -/
theorem cut_frame_stays :
    ∃ (c : Config) (rule : SocketRule) (s : Session) (ops : List Op), c.validate = .ok () ∧
      s = .fresh 0 100 1000 0 c.transport rule ∧ s.outgoing = [] ∧
      (∀ sent ∈ s.sends ops, sent.2 ≠ .ok ()) ∧ s.received ops ++ (s.run ops).outgoing = [1] := by
  refine ⟨tightConfig, _, tight, [.send ⟨1, List.replicate 64 0⟩], ?_, rfl, rfl, ?_, ?_⟩
  · decide +kernel
  · decide +kernel
  · decide +kernel

end Session
end SensorBroker
