/-
# Passes come to an end

A receiver makes passes until one says that no whole frame is left. What a pass
says of more frames it reads off a header that nobody has checked, so it may
promise a frame that the next pass refuses to take. It comes to an end all the
same: a pass that is made where a header stands with all that it declares either
takes a frame or drops everything, and leaves fewer bytes in both cases. A pass
that promises more has itself taken as many frames as it may, which bounds how
many passes there are (`ReceiveBuffer.Passes.bound`).

`ReceiveBuffer.Passes` makes passes as often as they ask for it, with no bound of
its own. Where a pass may take a frame it is what a receiver does with each read
(`Framing.absorb_passes`); where it may take none, and a whole frame is there,
there is no end (`ReceiveBuffer.exists_passes_iff`).

The second half is about room. Only writing, skipping and dropping change a
buffer, none of them takes it past its limit, and a pass is made of skips and a
drop (`ReceiveBuffer.pass_eq_run`).

Key definitions: `ReceiveBuffer.Passes`, `ReceiveBuffer.Op`,
`ReceiveBuffer.run`.
Key theorems: `Pass.length_packets_of_more`, `ReceiveBuffer.exists_passes_iff`,
`ReceiveBuffer.pass_of_holdsFrame`, `Framing.absorb_passes`,
`ReceiveBuffer.passes_end`.
-/
import SensorBroker.Proofs.Wire.Parsing

namespace SensorBroker

/-! ### A pass that promises more -/

theorem length_stream_ge : ∀ packets : List Packet,
    packets.length * headerSize ≤ (stream packets).length
  | [] => Nat.le_of_eq (Nat.zero_mul _)
  | p :: packets => by
    have ih := length_stream_ge packets
    rw [stream_cons, List.length_append, Packet.length_bytes, List.length_cons, Nat.succ_mul]
    omega

namespace Pass

variable {max : UInt32} {limit : Nat} {bs : Bytes}

/-- A pass that promises more has taken as many frames as it may. -/
theorem length_packets_of_more : ∀ (limit : Nat) (bs : Bytes),
    (run max limit bs).more = true → (run max limit bs).packets.length = limit
  | 0, _, _ => rfl
  | limit + 1, bs, h => by
    cases hfront : Front.of max bs with
    | whole p rest =>
      rw [run_of_whole hfront] at h ⊢
      exact congrArg (· + 1) (length_packets_of_more limit rest h)
    | incomplete =>
      rw [run, hfront, more, holdsFrame_of_incomplete hfront] at h
      cases h
    | oversized =>
      rw [run, hfront] at h
      cases h

/-- What a pass promises is what it leaves. -/
theorem more_eq_holdsFrame (max : UInt32) (limit : Nat) (bs : Bytes) :
    (run max limit bs).more = holdsFrame (run max limit bs).rest := by
  obtain ⟨tail, hexact⟩ := exact_run max limit bs
  rw [Bool.eq_iff_iff, hexact.more_iff, holdsFrame_iff]

/-- What a pass that drops nothing has taken and what it leaves are the bytes it
started on. -/
theorem eq_stream_append_rest (h : (run max limit bs).reset = false) :
    bs = stream (run max limit bs).packets ++ (run max limit bs).rest := by
  obtain ⟨tail, hexact⟩ := exact_run max limit bs
  have hrest : (run max limit bs).rest = tail := by
    rw [hexact.rest_eq, h, if_neg Bool.false_ne_true]
  rw [hrest]
  exact hexact.begins.eq_stream_append

/-- No pass adds a byte. -/
theorem length_rest_le (max : UInt32) (limit : Nat) (bs : Bytes) :
    (run max limit bs).rest.length ≤ bs.length := by
  cases hreset : (run max limit bs).reset with
  | false =>
    have hbytes := congrArg List.length (eq_stream_append_rest hreset)
    rw [List.length_append] at hbytes
    omega
  | true =>
    obtain ⟨tail, hexact⟩ := exact_run max limit bs
    rw [hexact.rest_eq, hreset, if_pos rfl]
    exact Nat.zero_le _

/-- One that promises more leaves fewer, by a header for each frame it may take. -/
theorem length_rest_of_more (h : (run max limit bs).more = true) :
    limit * headerSize + (run max limit bs).rest.length ≤ bs.length := by
  have hreset : (run max limit bs).reset = false := by
    rw [more, Bool.and_eq_true, Bool.not_eq_true'] at h
    exact h.1
  have hbytes := congrArg List.length (eq_stream_append_rest hreset)
  have hstream := length_stream_ge (run max limit bs).packets
  rw [length_packets_of_more limit bs h] at hstream
  rw [List.length_append] at hbytes
  omega

theorem length_rest_lt_of_more (hlimit : 1 ≤ limit) (h : (run max limit bs).more = true) :
    (run max limit bs).rest.length < bs.length := by
  have hlen := length_rest_of_more h
  have hpos : 0 < limit * headerSize := Nat.mul_pos hlimit (by decide)
  omega

end Pass

namespace ReceiveBuffer

/-! ### Pass after pass -/

/-- Passes over a buffer, one after the other, until one promises no more. -/
inductive Passes (f : Framing) : ReceiveBuffer → List Pass → ReceiveBuffer → Prop
  | last {b : ReceiveBuffer} (done : (b.pass f.maxPacketSize f.passLimit).1.more = false) :
    Passes f b [(b.pass f.maxPacketSize f.passLimit).1] (b.pass f.maxPacketSize f.passLimit).2
  | again {b b' : ReceiveBuffer} {passes : List Pass}
    (more : (b.pass f.maxPacketSize f.passLimit).1.more = true)
    (later : Passes f (b.pass f.maxPacketSize f.passLimit).2 passes b') :
    Passes f b ((b.pass f.maxPacketSize f.passLimit).1 :: passes) b'

variable {f : Framing} {b b' : ReceiveBuffer} {passes : List Pass}

/-- **Where a header stands with all that it declares, a pass gets on**: it takes
a frame, or it drops all there is. -/
theorem pass_of_holdsFrame (max : UInt32) {limit : Nat} (hlimit : 1 ≤ limit)
    (h : holdsFrame b.unread = true) :
    ((b.pass max limit).1.packets ≠ [] ∧
        (b.pass max limit).2.unread.length < b.unread.length) ∨
      ((b.pass max limit).1.reset = true ∧ (b.pass max limit).2 = b.reset) := by
  obtain ⟨limit, rfl⟩ := Nat.exists_eq_add_of_le' hlimit
  cases hfront : Front.of max b.unread with
  | incomplete =>
    rw [holdsFrame_of_incomplete hfront] at h
    cases h
  | oversized =>
    refine .inr ?_
    rw [pass, Pass.run, hfront]
    exact ⟨rfl, rfl⟩
  | whole p rest =>
    refine .inl ?_
    have hleft := Pass.length_rest_le max limit rest
    rw [pass, Pass.run_of_whole hfront]
    exact ⟨List.cons_ne_nil _ _, Nat.lt_of_le_of_lt hleft (Front.length_lt_of_whole hfront)⟩

/-- Passes that may take a frame come to an end. -/
theorem exists_passes (hlimit : 1 ≤ f.passLimit) (b : ReceiveBuffer) :
    ∃ passes b', Passes f b passes b' := by
  cases hmore : (b.pass f.maxPacketSize f.passLimit).1.more with
  | false => exact ⟨_, _, .last hmore⟩
  | true =>
    have hshort : (b.pass f.maxPacketSize f.passLimit).2.unread.length < b.unread.length :=
      Pass.length_rest_lt_of_more hlimit hmore
    obtain ⟨passes, b', hlater⟩ := exists_passes hlimit (b.pass f.maxPacketSize f.passLimit).2
    exact ⟨_, _, .again hmore hlater⟩
termination_by b.unread.length

/-- A pass that may take no frame does nothing. -/
theorem pass_of_zero (hlimit : f.passLimit = 0) (b : ReceiveBuffer) :
    b.pass f.maxPacketSize f.passLimit = (⟨[], b.unread, false⟩, b) := by
  rw [hlimit]
  rfl

/-- So it is promised a frame for ever, if it is promised one. -/
theorem Passes.holdsFrame_of_zero (h : Passes f b passes b') (hlimit : f.passLimit = 0) :
    holdsFrame b.unread = false := by
  induction h with
  | last done =>
    rw [pass_of_zero hlimit] at done
    exact done
  | again _ _ ih =>
    rw [pass_of_zero hlimit] at ih
    exact ih

/-- **Passes come to an end just where they may take a frame, or there is none.** -/
theorem exists_passes_iff (f : Framing) (b : ReceiveBuffer) :
    (∃ passes b', Passes f b passes b') ↔ 1 ≤ f.passLimit ∨ holdsFrame b.unread = false := by
  rcases Nat.eq_zero_or_pos f.passLimit with hzero | hpos
  · rw [hzero]
    constructor
    · rintro ⟨passes, b', h⟩
      exact .inr (h.holdsFrame_of_zero hzero)
    · rintro (hlimit | hnone)
      · exact absurd hlimit (Nat.not_succ_le_zero 0)
      · refine ⟨_, _, .last ?_⟩
        rw [pass_of_zero hzero]
        exact hnone
  · exact iff_of_true (exists_passes hpos b) (.inl hpos)

/-- All passes but the last have taken as many frames as they may. -/
theorem Passes.bound (h : Passes f b passes b') :
    passes.length * (f.passLimit * headerSize)
      ≤ b.unread.length + f.passLimit * headerSize := by
  induction h with
  | last _ =>
    rw [List.length_singleton, Nat.one_mul]
    exact Nat.le_add_left _ _
  | @again b b' passes more _ ih =>
    have hlen : f.passLimit * headerSize
        + (b.pass f.maxPacketSize f.passLimit).2.unread.length ≤ b.unread.length :=
      Pass.length_rest_of_more more
    rw [List.length_cons, Nat.succ_mul]
    omega

/-- What passes leave holds no whole frame. -/
theorem Passes.holdsFrame_left (h : Passes f b passes b') : holdsFrame b'.unread = false := by
  induction h with
  | @last b done =>
    rw [← done]
    exact (Pass.more_eq_holdsFrame f.maxPacketSize f.passLimit b.unread).symm
  | again _ _ ih => exact ih

/-- They are the passes that a receiver makes. -/
theorem Passes.drainBytes_eq (h : Passes f b passes b') (hlimit : 1 ≤ f.passLimit) :
    drainBytes f.maxPacketSize f.passLimit b.unread
        = ⟨passes.flatMap Pass.packets, b'.unread, passes.countP Pass.reset⟩ ∧
      b'.limit = b.limit := by
  induction h with
  | @last b done =>
    have hdone : (Pass.run f.maxPacketSize f.passLimit b.unread).more = false := done
    rw [drainBytes, dif_neg (by simp [hdone])]
    refine ⟨?_, rfl⟩
    simp [pass, List.countP_cons]
  | @again b b' passes more _ ih =>
    have hmore : (Pass.run f.maxPacketSize f.passLimit b.unread).more = true := more
    have hshort := Pass.length_rest_lt_of_more hlimit hmore
    obtain ⟨hdrain, hlim⟩ := ih
    have hdrain' : drainBytes f.maxPacketSize f.passLimit
        (Pass.run f.maxPacketSize f.passLimit b.unread).rest = _ := hdrain
    rw [drainBytes, dif_pos ⟨hmore, hshort⟩]
    refine ⟨?_, hlim⟩
    simp only [hdrain', pass, List.flatMap_cons, List.countP_cons, Drained.mk.injEq, true_and]
    exact Nat.add_comm _ _

end ReceiveBuffer

/-- **What a receiver does with a read**: it drops all that it holds where the
read does not fit, and otherwise makes passes until one promises no more. -/
theorem Framing.absorb_passes {f : Framing} (hlimit : 1 ≤ f.passLimit) (b : ReceiveBuffer)
    (chunk : Bytes) :
    (b.write? chunk = none ∧ f.absorb b chunk = ⟨[], b.reset, 1⟩) ∨
      ∃ held passes b', b.write? chunk = some held ∧ held.Passes f passes b' ∧
        f.absorb b chunk = ⟨passes.flatMap Pass.packets, b', passes.countP Pass.reset⟩ := by
  cases hwrite : b.write? chunk with
  | none =>
    refine .inl ⟨rfl, ?_⟩
    rw [absorb, hwrite]
  | some held =>
    obtain ⟨passes, b', h⟩ := ReceiveBuffer.exists_passes hlimit held
    obtain ⟨hdrain, hlim⟩ := h.drainBytes_eq hlimit
    refine .inr ⟨held, passes, b', rfl, h, ?_⟩
    simp only [absorb, hwrite, hdrain, ← hlim]

/-! ### Room -/

namespace ReceiveBuffer

/-- What changes a buffer. -/
inductive Op
  | write (chunk : Bytes)
  /-- Uses up the oldest bytes. -/
  | skip (n : Nat)
  | reset
deriving DecidableEq

/-- The buffer after a change; what is refused changes nothing. -/
def act (b : ReceiveBuffer) : Op → ReceiveBuffer
  | .write chunk => (b.write? chunk).getD b
  | .skip n => (b.skip? n).getD b
  | .reset => b.reset

/-- The buffer after some changes. -/
def run (b : ReceiveBuffer) (ops : List Op) : ReceiveBuffer :=
  ops.foldl act b

variable {b : ReceiveBuffer}

theorem act_write (b : ReceiveBuffer) (chunk : Bytes) :
    b.act (.write chunk) =
      if b.unread.length + chunk.length ≤ b.limit then { b with unread := b.unread ++ chunk }
      else b := by
  rw [act, write?]
  split_ifs <;> rfl

theorem run_append (b : ReceiveBuffer) (ops later : List Op) :
    b.run (ops ++ later) = (b.run ops).run later :=
  List.foldl_append

/-- No change moves the limit, or takes a buffer past it. -/
theorem length_act_le (h : b.unread.length ≤ b.limit) (op : Op) :
    (b.act op).limit = b.limit ∧ (b.act op).unread.length ≤ b.limit := by
  cases op with
  | write chunk =>
    rw [act_write]
    split_ifs with hfits
    · exact ⟨rfl, by rwa [List.length_append]⟩
    · exact ⟨rfl, h⟩
  | skip n =>
    rw [act, skip?]
    split_ifs
    · refine ⟨rfl, Nat.le_trans ?_ h⟩
      rw [Option.getD_some, List.length_drop]
      exact Nat.sub_le _ _
    · exact ⟨rfl, h⟩
  | reset => exact ⟨rfl, Nat.zero_le _⟩

theorem length_run_le (ops : List Op) : ∀ {b : ReceiveBuffer}, b.unread.length ≤ b.limit →
    (b.run ops).limit = b.limit ∧ (b.run ops).unread.length ≤ b.limit := by
  induction ops with
  | nil => exact fun h => ⟨rfl, h⟩
  | cons op ops ih =>
    intro b h
    obtain ⟨hlimit, hact⟩ := length_act_le h op
    obtain ⟨hlimit', hrun⟩ := ih (hlimit.symm ▸ hact)
    exact ⟨hlimit'.trans hlimit, hlimit ▸ hrun⟩

/-- To use up frames at the front is to come to what follows them. -/
theorem run_skips {max : UInt32} {bs tail : Bytes} {packets : List Packet}
    (h : Begins max bs packets tail) (limit : Nat) :
    run ⟨bs, limit⟩ (packets.map fun p => .skip p.frameSize) = ⟨tail, limit⟩ := by
  induction h with
  | nothing rest => rfl
  | @frame header payload bs rest packets declared allowed later ih =>
    have hskip : act ⟨header.bytes ++ (payload ++ bs), limit⟩
        (.skip (Packet.frameSize ⟨header.message, payload⟩)) = ⟨bs, limit⟩ := by
      have hlen : (header.bytes ++ payload).length = headerSize + payload.length := by
        rw [List.length_append, Header.length_bytes]
      rw [act, skip?, Packet.frameSize, ← List.append_assoc, if_pos, Option.getD_some,
        List.drop_left' hlen]
      rw [List.length_append, hlen]
      exact Nat.le_add_right _ _
    rw [List.map_cons, run, List.foldl_cons, hskip]
    exact ih

/-- **A pass is made of skips and a drop**: it uses up one frame after the other,
and then drops what is left if it says so. -/
theorem pass_eq_run (b : ReceiveBuffer) (max : UInt32) (limit : Nat) :
    (b.pass max limit).2 = b.run ((b.pass max limit).1.packets.map (fun p => .skip p.frameSize)
      ++ if (b.pass max limit).1.reset then [.reset] else []) := by
  obtain ⟨tail, hexact⟩ := Pass.exact_run max limit b.unread
  have hskips : b.run ((b.pass max limit).1.packets.map fun p => .skip p.frameSize)
      = ⟨tail, b.limit⟩ := run_skips hexact.begins b.limit
  have hleft : (b.pass max limit).2
      = ⟨if (b.pass max limit).1.reset then [] else tail, b.limit⟩ :=
    congrArg (fun rest => ReceiveBuffer.mk rest b.limit) hexact.rest_eq
  rw [run_append, hskips, hleft]
  split_ifs
  · rfl
  · rfl

/-- **Passes come to an end, and a buffer keeps its limit**, whatever bytes it
holds. Passes that are made until one promises no more end if a pass may take a
frame, and otherwise only if there is none; how many there are is bounded by the
bytes there were, and no whole frame is left. Where a pass has promised more, the
next one takes a frame and leaves fewer bytes, or drops all of them. A receiver
does just this with every read that fits. A buffer is changed by writing,
skipping and dropping alone, of which every pass is made; after any of them it
holds no more than its limit. A write that does not fit leaves it as it is. -/
theorem passes_end (f : Framing) (b : ReceiveBuffer) :
    ((∃ passes b', b.Passes f passes b') ↔ 1 ≤ f.passLimit ∨ holdsFrame b.unread = false) ∧
    (∀ passes b', b.Passes f passes b' →
      passes.length * (f.passLimit * headerSize) ≤ b.unread.length + f.passLimit * headerSize ∧
      holdsFrame b'.unread = false) ∧
    (1 ≤ f.passLimit → (b.pass f.maxPacketSize f.passLimit).1.more = true →
      let left := (b.pass f.maxPacketSize f.passLimit).2
      let next := left.pass f.maxPacketSize f.passLimit
      (next.1.packets ≠ [] ∧ next.2.unread.length < left.unread.length) ∨
        (next.1.reset = true ∧ next.2 = left.reset)) ∧
    (1 ≤ f.passLimit → ∀ chunk,
      (b.write? chunk = none ∧ f.absorb b chunk = ⟨[], b.reset, 1⟩) ∨
        ∃ held passes b', b.write? chunk = some held ∧ held.Passes f passes b' ∧
          f.absorb b chunk = ⟨passes.flatMap Pass.packets, b', passes.countP Pass.reset⟩) ∧
    (∀ size ops, ((ofLimit size).run ops).unread.length ≤ size) ∧
    (b.pass f.maxPacketSize f.passLimit).2 =
      b.run ((b.pass f.maxPacketSize f.passLimit).1.packets.map (fun p => .skip p.frameSize)
        ++ if (b.pass f.maxPacketSize f.passLimit).1.reset then [.reset] else []) ∧
    ∀ chunk, b.act (.write chunk) =
      if b.unread.length + chunk.length ≤ b.limit then { b with unread := b.unread ++ chunk }
      else b := by
  refine ⟨exists_passes_iff f b, fun passes b' h => ⟨h.bound, h.holdsFrame_left⟩,
    fun hlimit hmore => ?_, fun hlimit chunk => f.absorb_passes hlimit b chunk,
    fun size ops => ?_, b.pass_eq_run _ _, b.act_write⟩
  · refine pass_of_holdsFrame f.maxPacketSize hlimit ?_
    rw [← hmore]
    exact (Pass.more_eq_holdsFrame f.maxPacketSize f.passLimit b.unread).symm
  · exact (length_run_le ops (Nat.zero_le _)).2

/-- A frame without a payload, and behind it a header that declares more than the
maximum, with all the bytes that it declares: the first pass promises another
frame, which the second refuses. -/
example :
    let bad : Bytes := Header.bytes ⟨2, 3⟩ ++ [7, 7, 7]
    Passes ⟨1, 1, 16⟩ ⟨Packet.bytes ⟨1, []⟩ ++ bad, 25⟩
      [⟨[⟨1, []⟩], bad, false⟩, ⟨[], [], true⟩] ⟨[], 25⟩ :=
  .again (by decide) (.last (by decide))

end ReceiveBuffer
end SensorBroker
