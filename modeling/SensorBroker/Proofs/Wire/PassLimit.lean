/-
# How many frames a pass may take

Any bytes are some whole frames, one behind the other, and a rest that does
not start with a whole frame (`divide`). Passes that are made until no whole
frame is left take just these frames, however few a single pass may take.

What they leave does depend on that number, in one case. A header that declares
more than the maximum is found by a pass that looks at it. If the last pass
took as many frames as it may and stopped right in front of such a header, and
the bytes it declares have not come, then no whole frame seems to be left and
nobody looks: the header stays (`Stalls`), and spoils what is read next. In all
other cases the bytes are dropped at once, or there is nothing to be dropped
(`drainBytes_eq`).

Key definitions: `divide`, `Stalls`, `Framing.taking`, `Framing.Agree`,
`Link.pieces`.
Key theorems: `drainBytes_eq`, `drainBytes_eq_iff`, `Framing.absorbAll_eq_iff`,
`Watcher.run_eq_absorbAll`, `passLimit_unseen_iff`.
-/
import Mathlib.Tactic.SplitIfs
import SensorBroker.Channel.Watcher
import SensorBroker.Proofs.Channel.Receiving
import SensorBroker.Proofs.Wire.Exactness

namespace SensorBroker

/-! ### Whole frames and a rest -/

theorem Header.eq_bytes_append {bs : Bytes} {header : Header}
    (h : Header.peek? bs = some header) : bs = header.bytes ++ bs.drop headerSize := by
  unfold Header.peek? at h
  split at h
  · cases h
  · next message rest hmessage =>
    split at h
    · cases h
    · next size rest' hsize =>
      cases h
      have hbs : bs = Header.bytes ⟨message, size⟩ ++ rest' := by
        rw [Header.bytes, List.append_assoc, ← (Codec.exact_uint32.read_iff.1 hsize).1]
        exact (Codec.exact_uint32.read_iff.1 hmessage).1
      conv_rhs => rw [hbs, List.drop_left' (Header.length_bytes _)]
      exact hbs

/-- What is taken for a whole frame is one. -/
theorem Front.eq_bytes_append_of_whole {max : UInt32} {bs rest : Bytes} {p : Packet}
    (h : Front.of max bs = .whole p rest) : p.Fits max ∧ bs = p.bytes ++ rest := by
  unfold Front.of at h
  split at h
  · cases h
  · next header hpeek =>
    split_ifs at h with hsize
    split at h
    · next payload rest' htake =>
      cases h
      obtain ⟨hdrop, hlen⟩ := takeExactly_eq_some_iff.1 htake
      have hbs := Header.eq_bytes_append hpeek
      rw [hdrop, ← List.append_assoc] at hbs
      refine ⟨?_, ?_⟩
      · rw [UInt32.lt_iff_toNat_lt] at hsize
        exact Nat.le_trans (Nat.le_of_eq hlen) (Nat.not_lt.1 hsize)
      · rw [Packet.bytes]
        simp only [hlen, UInt32.ofNat_toNat]
        exact hbs
    · cases h

theorem Front.length_lt_of_whole {max : UInt32} {bs rest : Bytes} {p : Packet}
    (h : Front.of max bs = .whole p rest) : rest.length < bs.length := by
  rw [(Front.eq_bytes_append_of_whole h).2, List.length_append, Packet.length_bytes, headerSize]
  omega

/-- The whole frames that some bytes begin with, and what follows them. -/
def divide (max : UInt32) (bs : Bytes) : List Packet × Bytes :=
  match _h : Front.of max bs with
  | .whole p rest => (p :: (divide max rest).1, (divide max rest).2)
  | .incomplete | .oversized => ([], bs)
termination_by bs.length
decreasing_by all_goals exact Front.length_lt_of_whole _h

theorem divide_of_whole {max : UInt32} {bs rest : Bytes} {p : Packet}
    (h : Front.of max bs = .whole p rest) :
    divide max bs = (p :: (divide max rest).1, (divide max rest).2) := by
  rw [divide]
  split
  · next p' rest' h' =>
    rw [h] at h'
    cases h'
    rfl
  all_goals
    next h' =>
      rw [h] at h'
      cases h'

theorem divide_of_not_whole {max : UInt32} {bs : Bytes}
    (h : ∀ p rest, Front.of max bs ≠ .whole p rest) : divide max bs = ([], bs) := by
  rw [divide]
  split
  · next p rest h' => exact absurd h' (h p rest)
  all_goals rfl

/-- Bytes are divided without loss, and no whole frame is left over. -/
theorem divide_spec (max : UInt32) (bs : Bytes) :
    bs = stream (divide max bs).1 ++ (divide max bs).2 ∧
      (∀ p ∈ (divide max bs).1, p.Fits max) ∧
      ∀ p rest, Front.of max (divide max bs).2 ≠ .whole p rest := by
  fun_induction divide max bs with
  | case1 bs p rest h ih =>
    obtain ⟨hrest, hfit, hfront⟩ := ih
    obtain ⟨hp, hbs⟩ := Front.eq_bytes_append_of_whole h
    refine ⟨?_, ?_, hfront⟩
    · rw [stream_cons, List.append_assoc, ← hrest, hbs]
    · intro q hq
      rcases List.mem_cons.1 hq with rfl | hq
      · exact hp
      · exact hfit q hq
  | case2 bs h | case3 bs h =>
    refine ⟨rfl, fun p hp => absurd hp List.not_mem_nil, fun p rest h' => ?_⟩
    rw [h] at h'
    cases h'

/-- Frames and what follows them are divided as they were put together. -/
theorem divide_stream_append {max : UInt32} {tail : Bytes}
    (htail : ∀ p rest, Front.of max tail ≠ .whole p rest) : ∀ {packets : List Packet},
    (∀ p ∈ packets, p.Fits max) → divide max (stream packets ++ tail) = (packets, tail)
  | [], _ => divide_of_not_whole htail
  | p :: packets, h => by
    have hfront : Front.of max (stream (p :: packets) ++ tail) =
        .whole p (stream packets ++ tail) := by
      rw [stream_cons, List.append_assoc, Front.of_bytes_append (h p List.mem_cons_self)]
    have hrest := divide_stream_append htail fun q hq => h q (List.mem_cons_of_mem _ hq)
    rw [divide_of_whole hfront, hrest]

theorem holdsFrame_of_incomplete {max : UInt32} {bs : Bytes} (h : Front.of max bs = .incomplete) :
    holdsFrame bs = false := by
  unfold Front.of at h
  unfold holdsFrame
  cases hpeek : Header.peek? bs with
  | none => rfl
  | some header =>
    simp only [hpeek] at h
    split_ifs at h
    split at h
    · cases h
    · next htake => simp only [htake, Option.isSome_none]

theorem holdsFrame_stream_append {max : UInt32} (tail : Bytes) : ∀ {packets : List Packet},
    (∀ p ∈ packets, p.Fits max) → packets ≠ [] → holdsFrame (stream packets ++ tail) = true
  | [], _, hne => absurd rfl hne
  | p :: packets, h, _ => by
    rw [stream_cons, List.append_assoc, holdsFrame_bytes_append (h p List.mem_cons_self)]

/-! ### One pass -/

theorem eq_nil_of_isEmpty_stream_append {packets : List Packet} {tail : Bytes}
    (h : (stream packets ++ tail).isEmpty = true) : packets = [] ∧ tail = [] := by
  obtain ⟨hstream, htail⟩ := List.append_eq_nil_iff.1 (List.isEmpty_iff.1 h)
  refine ⟨?_, htail⟩
  by_contra hne
  have hpos := length_stream_pos hne
  rw [hstream] at hpos
  exact Nat.lt_irrefl _ hpos

section

variable {max : UInt32} {tail : Bytes}

/-- A pass that may not take more frames than there are takes as many as it
may. -/
theorem Pass.run_of_le : ∀ (limit : Nat) {packets : List Packet}, (∀ p ∈ packets, p.Fits max) →
    limit ≤ packets.length → Pass.run max limit (stream packets ++ tail) =
      ⟨packets.take limit, stream (packets.drop limit) ++ tail, false⟩
  | 0, _, _, _ => rfl
  | limit + 1, [], _, hle => absurd hle (Nat.not_succ_le_zero limit)
  | limit + 1, p :: packets, h, hle => by
    have hrest := Pass.run_of_le limit (fun q hq => h q (List.mem_cons_of_mem _ hq))
      (Nat.le_of_succ_le_succ hle)
    rw [stream_cons, List.append_assoc, Pass.run, Front.of_bytes_append (h p List.mem_cons_self)]
    simp only
    split
    · next hempty =>
      obtain ⟨hnil, htail⟩ := eq_nil_of_isEmpty_stream_append hempty
      simp [hnil, htail]
    · rw [hrest]
      rfl

/-- A pass that may take more frames than there are looks at what follows
them. -/
theorem Pass.run_of_lt (htail : ∀ p rest, Front.of max tail ≠ .whole p rest) :
    ∀ (limit : Nat) {packets : List Packet}, (∀ p ∈ packets, p.Fits max) →
      packets.length < limit → Pass.run max limit (stream packets ++ tail) =
        if Front.of max tail = .oversized then ⟨packets, [], true⟩ else ⟨packets, tail, false⟩
  | 0, packets, _, hlt => absurd hlt (Nat.not_lt_zero packets.length)
  | limit + 1, [], _, _ => by
    rw [stream_nil, List.nil_append, Pass.run]
    cases hfront : Front.of max tail with
    | incomplete => rfl
    | oversized => rfl
    | whole p rest => exact absurd hfront (htail p rest)
  | limit + 1, p :: packets, h, hlt => by
    have hrest := Pass.run_of_lt htail limit (fun q hq => h q (List.mem_cons_of_mem _ hq))
      (Nat.lt_of_succ_lt_succ hlt)
    rw [stream_cons, List.append_assoc, Pass.run, Front.of_bytes_append (h p List.mem_cons_self)]
    simp only
    split
    · next hempty =>
      obtain ⟨hnil, rfl⟩ := eq_nil_of_isEmpty_stream_append hempty
      rw [hnil, if_neg (by rw [(unfinished_nil max).front]; exact Front.noConfusion)]
    · rw [hrest]
      split_ifs
      · rfl
      · rfl

/-! ### Passes until no whole frame is left -/

/-- Passes take all whole frames. Of what follows they drop a header that
declares more than the maximum, unless they end right in front of it and what
it declares has not come. -/
theorem drainBytes_stream_append {limit : Nat} (hlimit : 1 ≤ limit)
    (htail : ∀ p rest, Front.of max tail ≠ .whole p rest) (packets : List Packet)
    (h : ∀ p ∈ packets, p.Fits max) : drainBytes max limit (stream packets ++ tail) =
      if Front.of max tail = .oversized ∧
          ¬ (holdsFrame tail = false ∧ packets ≠ [] ∧ limit ∣ packets.length)
      then ⟨packets, [], 1⟩ else ⟨packets, tail, 0⟩ := by
  rcases Nat.lt_or_ge packets.length limit with hlt | hge
  · -- the first pass looks at what follows the frames
    have hdvd : ¬ (packets ≠ [] ∧ limit ∣ packets.length) := fun ⟨hne, hdvd⟩ =>
      Nat.not_lt.2 (Nat.le_of_dvd (List.length_pos_iff.2 hne) hdvd) hlt
    rw [drainBytes, Pass.run_of_lt htail limit h hlt]
    by_cases hfront : Front.of max tail = .oversized
    · rw [if_pos (show _ ∧ _ from ⟨hfront, fun hstall => hdvd hstall.2⟩)]
      simp [Pass.more, hfront]
    · have hincomplete : Front.of max tail = .incomplete := by
        cases hcase : Front.of max tail with
        | incomplete => rfl
        | oversized => exact absurd hcase hfront
        | whole p rest => exact absurd hcase (htail p rest)
      simp [Pass.more, hfront, holdsFrame_of_incomplete hincomplete]
  · -- the first pass stops before the end of the frames, or right behind them
    have hne : packets ≠ [] := List.length_pos_iff.1 (Nat.lt_of_lt_of_le hlimit hge)
    have hlater : ∀ p ∈ packets.drop limit, p.Fits max := fun p hp => h p (List.mem_of_mem_drop hp)
    have hlen : (packets.drop limit).length = packets.length - limit := List.length_drop
    have hdvd : limit ∣ packets.length - limit ↔ limit ∣ packets.length :=
      Nat.dvd_sub_iff_left hge (Nat.dvd_refl limit)
    rw [drainBytes, Pass.run_of_le limit h hge]
    cases hmore : holdsFrame (stream (packets.drop limit) ++ tail) with
    | true =>
      have hrec := drainBytes_stream_append hlimit htail (packets.drop limit) hlater
      have hshort :
          (stream (packets.drop limit) ++ tail).length < (stream packets ++ tail).length := by
        have htaken : 0 < (stream (packets.take limit)).length := length_stream_pos fun hnil => by
          have hzero := congrArg List.length hnil
          rw [List.length_take, List.length_nil] at hzero
          omega
        conv_rhs => rw [← List.take_append_drop limit packets, stream_append]
        simp only [List.length_append]
        omega
      have hstalls : (holdsFrame tail = false ∧ packets.drop limit ≠ [] ∧
            limit ∣ (packets.drop limit).length) ↔
          (holdsFrame tail = false ∧ packets ≠ [] ∧ limit ∣ packets.length) := by
        rw [hlen, hdvd]
        refine and_congr_right fun hnone => and_congr_left fun _ => iff_of_true (fun hnil => ?_) hne
        rw [hnil, stream_nil, List.nil_append, hnone] at hmore
        cases hmore
      rw [dif_pos ⟨by simp [Pass.more, hmore], hshort⟩, hrec]
      simp only [hstalls, Bool.false_eq_true, if_false]
      split_ifs
      · simp only [List.take_append_drop, Nat.zero_add]
      · simp only [List.take_append_drop, Nat.zero_add]
    | false =>
      have hnil : packets.drop limit = [] := by
        by_contra hsome
        rw [holdsFrame_stream_append tail hlater hsome] at hmore
        cases hmore
      rw [hnil, stream_nil, List.nil_append] at hmore ⊢
      have hall : packets.length = limit := by
        rw [hnil, List.length_nil] at hlen
        omega
      have hstalls : holdsFrame tail = false ∧ packets ≠ [] ∧ limit ∣ packets.length :=
        ⟨hmore, hne, 1, by rw [hall, Nat.mul_one]⟩
      rw [if_neg fun hboth : _ ∧ ¬ _ => hboth.2 hstalls, dif_neg (by simp [Pass.more, hmore]),
        ← hall, List.take_length]
      rfl
termination_by packets.length
decreasing_by
  rw [List.length_drop]
  omega

end

/-- **Where a pass takes at most `limit` frames, a header that declares more
than the maximum stays**: the passes end right in front of it, with a pass that
took as many frames as it may, and what it declares has not come. -/
def Stalls (max : UInt32) (limit : Nat) (bs : Bytes) : Prop :=
  Front.of max (divide max bs).2 = .oversized ∧ holdsFrame (divide max bs).2 = false ∧
    (divide max bs).1 ≠ [] ∧ limit ∣ (divide max bs).1.length

instance (max : UInt32) (limit : Nat) (bs : Bytes) : Decidable (Stalls max limit bs) :=
  inferInstanceAs (Decidable (_ ∧ _))

/-- Passes take all whole frames, and drop a header that declares more than the
maximum unless they stall. -/
theorem drainBytes_eq {max : UInt32} {limit : Nat} (hlimit : 1 ≤ limit) (bs : Bytes) :
    drainBytes max limit bs =
      if Front.of max (divide max bs).2 = .oversized ∧ ¬ Stalls max limit bs then
        ⟨(divide max bs).1, [], 1⟩
      else ⟨(divide max bs).1, (divide max bs).2, 0⟩ := by
  obtain ⟨hbs, hfits, htail⟩ := divide_spec max bs
  have hdrain := drainBytes_stream_append hlimit htail _ hfits
  rw [← hbs] at hdrain
  rw [hdrain]
  refine if_congr (and_congr_right fun hfront => not_congr ?_) rfl rfl
  exact (and_iff_right hfront).symm

theorem packets_drainBytes {max : UInt32} {limit : Nat} (hlimit : 1 ≤ limit) (bs : Bytes) :
    (drainBytes max limit bs).packets = (divide max bs).1 := by
  rw [drainBytes_eq hlimit]
  split_ifs
  · rfl
  · rfl

/-- With two limits the same comes out, unless passes stall with just one of
them. -/
theorem drainBytes_eq_iff {max : UInt32} {n m : Nat} (hn : 1 ≤ n) (hm : 1 ≤ m) (bs : Bytes) :
    drainBytes max n bs = drainBytes max m bs ↔ (Stalls max n bs ↔ Stalls max m bs) := by
  rw [drainBytes_eq hn, drainBytes_eq hm]
  by_cases hfront : Front.of max (divide max bs).2 = .oversized
  · by_cases hstalls : Stalls max n bs
    · by_cases hstalls' : Stalls max m bs
      · simp [hstalls, hstalls']
      · simp [hfront, hstalls, hstalls']
    · by_cases hstalls' : Stalls max m bs
      · simp [hfront, hstalls, hstalls']
      · simp [hstalls, hstalls']
  · have hnever : ∀ limit, ¬ Stalls max limit bs := fun limit hstalls => hfront hstalls.1
    simp [hfront, hnever]

/-! ### One read after the other -/

theorem Absorbed.eq_of_parts {x y : Absorbed} (packets : x.packets = y.packets)
    (buffer : x.buffer = y.buffer) (resets : x.resets = y.resets) : x = y := by
  cases x
  cases y
  rw [Absorbed.mk.injEq]
  exact ⟨packets, buffer, resets⟩

namespace Framing

/-- The same with another number of frames to a pass. -/
def taking (f : Framing) (limit : Nat) : Framing :=
  { f with passLimit := limit }

/-- What a read brings the buffer to, if it fits, stalls the passes with both of
two limits or with neither. -/
def Agree (f : Framing) (n m : Nat) (b : ReceiveBuffer) (chunk : Bytes) : Prop :=
  ∀ b' ∈ b.write? chunk,
    (Stalls f.maxPacketSize n b'.unread ↔ Stalls f.maxPacketSize m b'.unread)

instance (f : Framing) (n m : Nat) (b : ReceiveBuffer) (chunk : Bytes) :
    Decidable (f.Agree n m b chunk) :=
  inferInstanceAs (Decidable (∀ b' ∈ b.write? chunk,
    (Stalls f.maxPacketSize n b'.unread ↔ Stalls f.maxPacketSize m b'.unread)))

variable {f : Framing} {n m : Nat}

theorem absorbAll_singleton (f : Framing) (b : ReceiveBuffer) (chunk : Bytes) :
    f.absorbAll b [chunk] = f.absorb b chunk := by
  simp [absorbAll]

theorem absorb_eq_iff (hn : 1 ≤ n) (hm : 1 ≤ m) (b : ReceiveBuffer) (chunk : Bytes) :
    (f.taking n).absorb b chunk = (f.taking m).absorb b chunk ↔ f.Agree n m b chunk := by
  unfold absorb Agree
  cases hwrite : b.write? chunk with
  | none => exact iff_of_true rfl fun _ h => by cases Option.mem_def.1 h
  | some b' =>
    have heq := @drainBytes_eq_iff f.maxPacketSize n m hn hm b'.unread
    simp only [Option.mem_def, Option.some.injEq, forall_eq', ← heq, taking]
    constructor
    · intro h
      simp only [Absorbed.mk.injEq, ReceiveBuffer.mk.injEq, and_true] at h
      rcases hd : drainBytes f.maxPacketSize n b'.unread with ⟨packets, rest, resets⟩
      rcases hd' : drainBytes f.maxPacketSize m b'.unread with ⟨packets', rest', resets'⟩
      rw [hd, hd'] at h
      simp only at h
      rw [h.1, h.2.1, h.2.2]
    · intro h
      rw [h]

/-- **What comes out of a sequence of reads does not depend on the frames of a
pass** as long as no read stalls the passes with just one of two limits. -/
theorem absorbAll_eq_iff (hn : 1 ≤ n) (hm : 1 ≤ m) : ∀ (reads : List Bytes) (b : ReceiveBuffer),
    (∀ before, before <+: reads →
        (f.taking n).absorbAll b before = (f.taking m).absorbAll b before) ↔
      ∀ before chunk, before ++ [chunk] <+: reads →
        f.Agree n m ((f.taking n).absorbAll b before).buffer chunk
  | [], b => by
    refine iff_of_true (fun before h => ?_) fun before chunk h => ?_
    · rw [List.prefix_nil.1 h]
      rfl
    · have hnil := List.prefix_nil.1 h
      simp at hnil
  | first :: rest, b => by
    have hrest := absorbAll_eq_iff hn hm rest ((f.taking n).absorb b first).buffer
    have hfirst := absorb_eq_iff (f := f) hn hm b first
    constructor
    · intro h before chunk hprefix
      have hsame : (f.taking n).absorb b first = (f.taking m).absorb b first := by
        have hone := h [first] (by simp)
        rwa [absorbAll_singleton, absorbAll_singleton] at hone
      cases before with
      | nil =>
        obtain ⟨rfl, -⟩ := List.cons_prefix_cons.1 hprefix
        exact hfirst.1 hsame
      | cons x before =>
        obtain ⟨rfl, hbefore⟩ := List.cons_prefix_cons.1 hprefix
        refine hrest.1 (fun later hlater => ?_) before chunk hbefore
        have hboth := h (x :: later) (List.cons_prefix_cons.2 ⟨rfl, hlater⟩)
        simp only [absorbAll, ← hsame, Absorbed.mk.injEq, List.append_cancel_left_eq,
          Nat.add_left_cancel_iff] at hboth
        exact Absorbed.eq_of_parts hboth.1 hboth.2.1 hboth.2.2
    · intro h before hprefix
      cases before with
      | nil => rfl
      | cons x before =>
        obtain ⟨rfl, hbefore⟩ := List.cons_prefix_cons.1 hprefix
        have hsame := hfirst.2 (h [] x (by simp))
        have hlater := hrest.2 (fun later chunk hlater =>
          h (x :: later) chunk (List.cons_prefix_cons.2 ⟨rfl, hlater⟩)) before hbefore
        simp only [absorbAll, ← hsame, hlater]

end Framing

/-! ### Both ends of a channel -/

/-- What is there to read at the broker's end, in reads of at most `n` bytes. -/
def Link.pieces (l : Link) (n : Nat) : List Bytes :=
  match _h : l.readAtBroker n with
  | (.bytes run, l') => run :: pieces l' n
  | (.nothing, _) | (.ended, _) => []
termination_by l.toBroker.size
decreasing_by exact Link.readAtBroker_size _h

theorem Link.pieces_of_bytes {l l' : Link} {n : Nat} {run : Bytes}
    (h : l.readAtBroker n = (.bytes run, l')) : l.pieces n = run :: l'.pieces n := by
  rw [Link.pieces]
  split
  · next h' =>
    rw [h] at h'
    cases h'
    rfl
  all_goals
    next h' =>
      rw [h] at h'
      cases h'

theorem Link.pieces_eq_nil {l l' : Link} {n : Nat} {r : ReadResult}
    (h : l.readAtBroker n = (r, l')) (hr : r = .nothing ∨ r = .ended) : l.pieces n = [] := by
  rw [Link.pieces]
  split
  · next h' =>
    rw [h] at h'
    cases h'
    rcases hr with hr | hr
    · cases hr
    · cases hr
  all_goals rfl

/-- A watcher takes in what is there as any receiver does. -/
theorem Watcher.run_eq_absorbAll {w : Watcher} {s : Session} (hopen : s.isClosed = false) :
    (w.run s).packets = (w.framing.absorbAll w.buffer (s.link.pieces w.framing.readChunk)).packets ∧
      (w.run s).watcher.buffer =
        (w.framing.absorbAll w.buffer (s.link.pieces w.framing.readChunk)).buffer ∧
      (w.run s).session.counters.protocolResets = s.counters.protocolResets +
        (w.framing.absorbAll w.buffer (s.link.pieces w.framing.readChunk)).resets := by
  fun_induction Watcher.run w s with
  | case1 w s hclosed => exact absurd hclosed (Bool.eq_false_iff.1 hopen)
  | case2 w s _ l hread =>
    rw [Link.pieces_eq_nil hread (.inl rfl)]
    exact ⟨rfl, rfl, rfl⟩
  | case3 w s _ l hread =>
    rw [Link.pieces_eq_nil hread (.inr rfl)]
    exact ⟨rfl, rfl, rfl⟩
  | case4 w s _ chunk l hread absorbed later ih =>
    obtain ⟨hpackets, hbuffer, hresets⟩ := ih hopen
    rw [Link.pieces_of_bytes hread]
    refine ⟨congrArg (absorbed.packets ++ ·) hpackets, hbuffer, hresets.trans ?_⟩
    exact Nat.add_assoc ..

/-- **Whether the frames of a pass can be told from outside.** Passes take the
same packets whatever their limit is. They leave the same, and drop bytes
equally often, exactly if the two limits both stall or both do not; and so it is
with every sequence of reads. Where no read tells two limits apart, a client and
a watcher get the same with either. -/
theorem passLimit_unseen_iff (f : Framing) {n m : Nat} (hn : 1 ≤ n) (hm : 1 ≤ m) :
    (∀ bs, (drainBytes f.maxPacketSize n bs).packets = (drainBytes f.maxPacketSize m bs).packets ∧
      (drainBytes f.maxPacketSize n bs = drainBytes f.maxPacketSize m bs ↔
        (Stalls f.maxPacketSize n bs ↔ Stalls f.maxPacketSize m bs))) ∧
    ∀ (b : ReceiveBuffer) (reads : List Bytes),
      ((∀ before, before <+: reads →
          (f.taking n).absorbAll b before = (f.taking m).absorbAll b before) ↔
        ∀ before chunk, before ++ [chunk] <+: reads →
          f.Agree n m ((f.taking n).absorbAll b before).buffer chunk) ∧
      ((∀ before chunk, before ++ [chunk] <+: reads →
          f.Agree n m ((f.taking n).absorbAll b before).buffer chunk) →
        (∀ ready,
          (reads.foldl Client.absorb ⟨f.taking n, b, ready⟩).ready =
            (reads.foldl Client.absorb ⟨f.taking m, b, ready⟩).ready) ∧
        ∀ s : Session, s.isClosed = false → s.link.pieces f.readChunk = reads →
          (Watcher.run ⟨f.taking n, b⟩ s).packets = (Watcher.run ⟨f.taking m, b⟩ s).packets ∧
            (Watcher.run ⟨f.taking n, b⟩ s).session.counters.protocolResets =
              (Watcher.run ⟨f.taking m, b⟩ s).session.counters.protocolResets) := by
  refine ⟨fun bs => ⟨?_, drainBytes_eq_iff hn hm bs⟩, fun b reads => ?_⟩
  · rw [packets_drainBytes hn, packets_drainBytes hm]
  · have hiff := Framing.absorbAll_eq_iff (f := f) hn hm reads b
    refine ⟨hiff, fun hagree => ?_⟩
    have hsame := hiff.2 hagree reads (List.prefix_refl reads)
    refine ⟨fun ready => ?_, fun s hopen hpieces => ?_⟩
    · rw [Client.foldl_absorb, Client.foldl_absorb]
      simp only [hsame]
    · obtain ⟨hpackets, -, hresets⟩ := Watcher.run_eq_absorbAll (w := ⟨f.taking n, b⟩) hopen
      obtain ⟨hpackets', -, hresets'⟩ := Watcher.run_eq_absorbAll (w := ⟨f.taking m, b⟩) hopen
      rw [hpackets, hpackets', hresets, hresets']
      simp only [Framing.taking] at hsame ⊢
      rw [hpieces, hsame]
      exact ⟨rfl, rfl⟩

/-- Two frames and the beginning of a third, then the rest of it: with one frame
to a pass a client gets the same as with two. -/
theorem passLimit_unseen_by_client :
    let reads : List Bytes :=
      [Packet.bytes ⟨1, []⟩ ++ Packet.bytes ⟨2, [7]⟩ ++ [3, 0], [0, 0, 0, 0, 0, 0]]
    (reads.foldl Client.absorb ⟨⟨4, 1, 24⟩, Framing.buffer ⟨4, 1, 24⟩, []⟩).ready =
      (reads.foldl Client.absorb ⟨⟨4, 2, 24⟩, Framing.buffer ⟨4, 1, 24⟩, []⟩).ready := by
  intro reads
  have hagree : ∀ before chunk, before ++ [chunk] <+: reads →
      Framing.Agree ⟨4, 1, 24⟩ 1 2
        ((Framing.taking ⟨4, 1, 24⟩ 1).absorbAll (Framing.buffer ⟨4, 1, 24⟩) before).buffer
        chunk := by
    intro before chunk hprefix
    match before, hprefix with
    | [], hprefix =>
      obtain ⟨rfl, -⟩ := List.cons_prefix_cons.1 hprefix
      decide +kernel
    | [_], hprefix =>
      obtain ⟨rfl, hsecond⟩ := List.cons_prefix_cons.1 hprefix
      obtain ⟨rfl, -⟩ := List.cons_prefix_cons.1 hsecond
      decide +kernel
    | _ :: _ :: before, hprefix =>
      have hlen := hprefix.length_le
      simp [reads] at hlen
  have hunseen := (passLimit_unseen_iff ⟨4, 1, 24⟩ (n := 1) (m := 2) (by decide) (by decide)).2
  exact ((hunseen (Framing.buffer ⟨4, 1, 24⟩) reads).2 hagree).1 []

/-- A frame, and a header that declares too much right behind it: with one frame
to a pass the header stays, and the frame that comes next is lost with it. With
two it is dropped at once, and the next frame is taken. -/
theorem passLimit_seen :
    let bad : Bytes := Header.bytes ⟨1, 100⟩
    let read : Bytes := Packet.bytes ⟨1, []⟩ ++ bad
    let next : Bytes := Packet.bytes ⟨2, [7]⟩
    drainBytes 4 1 read = ⟨[⟨1, []⟩], bad, 0⟩ ∧ drainBytes 4 2 read = ⟨[⟨1, []⟩], [], 1⟩ ∧
      ([read, next].foldl Client.absorb ⟨⟨4, 1, 16⟩, Framing.buffer ⟨4, 1, 16⟩, []⟩).ready =
        [⟨1, []⟩] ∧
      ([read, next].foldl Client.absorb ⟨⟨4, 2, 16⟩, Framing.buffer ⟨4, 2, 16⟩, []⟩).ready =
        [⟨1, []⟩, ⟨2, [7]⟩] := by
  decide +kernel

end SensorBroker
