/-
# What one pass does to any bytes

Bytes begin with some frames if header, declared payload, header, declared
payload, … stand there, none of them declaring more than the maximum, and then
whatever is left (`Begins`). Nothing is asked of what is left: it may be cut
anywhere, or be no frames at all.

One pass takes the longest such sequence among those of at most `limit`
frames. Only if it took fewer does it look at what follows them, and drops it
where it finds a whole header there that declares more than the maximum. In
all other cases what follows is left as it is, so that no byte is lost.

The induction is over the frames a pass may still take; what it keeps is
`Pass.Exact`, which speaks of the bytes the pass started on.

Key definitions: `Begins`, `Pass.Exact`.
Key theorems: `Front.of_eq_whole_iff`, `Begins.eq_stream_append`, `Pass.exact_run`,
`ReceiveBuffer.pass_exact`.
-/
import Mathlib.Tactic.SplitIfs
import SensorBroker.Proofs.Wire.PassLimit

namespace SensorBroker

/-! ### Frames at the front -/

/-- Bytes begin with the frames of some packets, and then there is a rest. A
frame is a header and as many bytes as it declares. -/
inductive Begins (max : UInt32) : Bytes → List Packet → Bytes → Prop
  | nothing (rest : Bytes) : Begins max rest [] rest
  | frame {header : Header} {payload bs rest : Bytes} {packets : List Packet}
      (declared : header.size.toNat = payload.length) (allowed : header.size ≤ max)
      (later : Begins max bs packets rest) :
      Begins max (header.bytes ++ (payload ++ bs)) (⟨header.message, payload⟩ :: packets) rest

/-- A whole frame is seen just where a header stands that declares no more than
the maximum and no more than has come. -/
theorem Front.of_eq_whole_iff {max : UInt32} {bs rest : Bytes} {p : Packet} :
    Front.of max bs = .whole p rest ↔
      ∃ header : Header, header.size.toNat = p.payload.length ∧ header.size ≤ max ∧
        header.message = p.message ∧ bs = header.bytes ++ (p.payload ++ rest) := by
  constructor
  · intro h
    obtain ⟨hfits, hbs⟩ := Front.eq_bytes_append_of_whole h
    refine ⟨⟨p.message, UInt32.ofNat p.payload.length⟩, hfits.toNat_size, ?_, rfl, ?_⟩
    · exact UInt32.not_lt.1 hfits.not_max_lt
    · rw [hbs, Packet.bytes, List.append_assoc]
  · rintro ⟨header, hdeclared, hallowed, hmessage, rfl⟩
    have hfits : p.Fits max := by
      rw [Packet.Fits, ← hdeclared]
      exact UInt32.le_iff_toNat_le.1 hallowed
    have hframe : header.bytes ++ (p.payload ++ rest) = p.bytes ++ rest := by
      rw [Packet.bytes, List.append_assoc, ← hmessage, ← hdeclared, UInt32.ofNat_toNat]
    rw [hframe, Front.of_bytes_append hfits]

theorem Front.of_eq_oversized_iff {max : UInt32} {bs : Bytes} :
    Front.of max bs = .oversized ↔
      ∃ header, Header.peek? bs = some header ∧ max < header.size := by
  unfold Front.of
  cases Header.peek? bs with
  | none => simp
  | some header =>
    simp only [Option.some.injEq, exists_eq_left']
    split_ifs with hsize
    · exact iff_of_true rfl hsize
    · refine iff_of_false ?_ hsize
      split
      · exact Front.noConfusion
      · exact Front.noConfusion

theorem holdsFrame_iff {bs : Bytes} :
    holdsFrame bs = true ↔
      ∃ header, Header.peek? bs = some header ∧ headerSize + header.size.toNat ≤ bs.length := by
  unfold holdsFrame
  cases hpeek : Header.peek? bs with
  | none => simp
  | some header =>
    have hheader : headerSize ≤ bs.length := by
      apply Nat.not_lt.1
      intro hlt
      rw [Header.peek?_eq_none_iff.2 hlt] at hpeek
      cases hpeek
    rw [Option.isSome_iff_ne_none, ne_eq, takeExactly_eq_none_iff, List.length_drop]
    simp only [Option.some.injEq, exists_eq_left']
    omega

namespace Begins

variable {max : UInt32} {bs rest : Bytes} {packets : List Packet}

/-- The first of the frames is the one a receiver sees. -/
theorem front {p : Packet} (h : Begins max bs (p :: packets) rest) :
    ∃ bs', Front.of max bs = .whole p bs' ∧ Begins max bs' packets rest := by
  cases h with
  | frame declared allowed later =>
    exact ⟨_, Front.of_eq_whole_iff.2 ⟨_, declared, allowed, rfl, rfl⟩, later⟩

theorem cons_of_whole {p : Packet} {bs' : Bytes} (hfront : Front.of max bs = .whole p bs')
    (h : Begins max bs' packets rest) : Begins max bs (p :: packets) rest := by
  obtain ⟨header, hdeclared, hallowed, hmessage, rfl⟩ := Front.of_eq_whole_iff.1 hfront
  have hpacket : p = ⟨header.message, p.payload⟩ := by rw [hmessage]
  rw [hpacket]
  exact frame hdeclared hallowed h

/-- Where no whole frame is seen there are no frames. -/
theorem eq_nil (h : Begins max bs packets rest) (hfront : ∀ p bs', Front.of max bs ≠ .whole p bs') :
    packets = [] := by
  cases packets with
  | nil => rfl
  | cons p packets =>
    obtain ⟨bs', hwhole, -⟩ := h.front
    exact absurd hwhole (hfront p bs')

/-- No byte belongs to no frame and not to the rest. -/
theorem eq_stream_append (h : Begins max bs packets rest) : bs = stream packets ++ rest := by
  induction h with
  | nothing rest => rfl
  | @frame header payload bs rest packets declared allowed later ih =>
    have hframe : Packet.bytes ⟨header.message, payload⟩ = header.bytes ++ payload := by
      rw [Packet.bytes, ← declared, UInt32.ofNat_toNat]
    rw [stream_cons, hframe, List.append_assoc, List.append_assoc, ← ih]

end Begins

/-! ### One pass -/

namespace Pass

theorem run_nil (max : UInt32) (limit : Nat) : run max limit [] = ⟨[], [], false⟩ := by
  cases limit with
  | zero => rfl
  | succ limit => rfl

/-- A pass takes the frame it sees and goes on behind it. That it stops where
nothing is left makes no difference. -/
theorem run_of_whole {max : UInt32} {bs bs' : Bytes} {p : Packet}
    (h : Front.of max bs = .whole p bs') (limit : Nat) :
    run max (limit + 1) bs =
      ⟨p :: (run max limit bs').packets, (run max limit bs').rest, (run max limit bs').reset⟩ := by
  rw [run, h]
  simp only
  split_ifs with hempty
  · rw [List.isEmpty_iff.1 hempty, run_nil]
  · rfl

/-- What a pass for at most `limit` frames has done to the bytes it started on,
where `tail` is what followed the frames it took. -/
structure Exact (max : UInt32) (limit : Nat) (bs tail : Bytes) (p : Pass) : Prop where
  /-- It took frames that stood at the front, -/
  begins : Begins max bs p.packets tail
  /-- no more than it may, -/
  within : p.packets.length ≤ limit
  /-- and as many of them as there are. -/
  longest : ∀ packets rest, Begins max bs packets rest → packets.length ≤ limit →
    packets <+: p.packets
  /-- It drops what follows for one reason only, -/
  reset_iff : p.reset = true ↔ p.packets.length < limit ∧
    ∃ header, Header.peek? tail = some header ∧ max < header.size
  /-- and otherwise leaves it. -/
  rest_eq : p.rest = if p.reset then [] else tail

variable {max : UInt32} {bs tail : Bytes}

/-- A pass that takes no frame. -/
theorem Exact.of_not_whole (hfront : ∀ p bs', Front.of max bs ≠ .whole p bs') (limit : Nat) :
    Exact max (limit + 1) bs bs
      (if Front.of max bs = .oversized then ⟨[], [], true⟩ else ⟨[], bs, false⟩) := by
  have hlongest : ∀ packets rest, Begins max bs packets rest → packets.length ≤ limit + 1 →
      packets <+: [] := by
    intro packets rest h _
    obtain rfl := h.eq_nil hfront
    exact List.nil_prefix
  split_ifs with hoversized
  · exact
      { begins := .nothing bs
        within := Nat.zero_le _
        longest := hlongest
        reset_iff := iff_of_true rfl ⟨Nat.succ_pos limit, Front.of_eq_oversized_iff.1 hoversized⟩
        rest_eq := rfl }
  · exact
      { begins := .nothing bs
        within := Nat.zero_le _
        longest := hlongest
        reset_iff := iff_of_false Bool.false_ne_true fun h =>
          hoversized (Front.of_eq_oversized_iff.2 h.2)
        rest_eq := rfl }

/-- A frame in front of what a pass is exact on. -/
theorem Exact.cons {p : Packet} {bs' : Bytes} {later : Pass} {limit : Nat}
    (hfront : Front.of max bs = .whole p bs') (h : Exact max limit bs' tail later) :
    Exact max (limit + 1) bs tail ⟨p :: later.packets, later.rest, later.reset⟩ where
  begins := h.begins.cons_of_whole hfront
  within := Nat.succ_le_succ h.within
  longest := by
    intro packets rest hbegins hlen
    cases packets with
    | nil => exact List.nil_prefix
    | cons q packets =>
      obtain ⟨bs'', hwhole, hrest⟩ := hbegins.front
      rw [hfront] at hwhole
      cases hwhole
      have hprefix := h.longest packets rest hrest (Nat.le_of_succ_le_succ hlen)
      exact List.cons_prefix_cons.2 ⟨rfl, hprefix⟩
  reset_iff := by
    rw [List.length_cons, Nat.add_lt_add_iff_right]
    exact h.reset_iff
  rest_eq := h.rest_eq

/-- Every pass is exact. -/
theorem exact_run (max : UInt32) : ∀ (limit : Nat) (bs : Bytes),
    ∃ tail, Exact max limit bs tail (run max limit bs)
  | 0, bs => by
    refine ⟨bs, .nothing bs, Nat.le_refl 0, ?_, ?_, rfl⟩
    · intro packets rest _ hlen
      obtain rfl : packets = [] := List.length_eq_zero_iff.1 (Nat.le_zero.1 hlen)
      exact List.nil_prefix
    · exact iff_of_false Bool.false_ne_true fun h => Nat.lt_irrefl 0 h.1
  | limit + 1, bs => by
    cases hfront : Front.of max bs with
    | whole p bs' =>
      obtain ⟨tail, h⟩ := exact_run max limit bs'
      rw [run_of_whole hfront]
      exact ⟨tail, h.cons hfront⟩
    | incomplete =>
      have h : Exact max (limit + 1) bs bs _ :=
        Exact.of_not_whole (fun p bs' => by simp [hfront]) limit
      refine ⟨bs, ?_⟩
      simpa [run, hfront] using h
    | oversized =>
      have h : Exact max (limit + 1) bs bs _ :=
        Exact.of_not_whole (fun p bs' => by simp [hfront]) limit
      refine ⟨bs, ?_⟩
      simpa [run, hfront] using h

/-- Another frame is buffered just where a header is left and all that it
declares. After a reset nothing is left, so there is none. -/
theorem Exact.more_iff {limit : Nat} {p : Pass} (h : Exact max limit bs tail p) :
    p.more = true ↔ ∃ header, Header.peek? p.rest = some header ∧
      headerSize + header.size.toNat ≤ p.rest.length := by
  rw [← holdsFrame_iff, more]
  cases hreset : p.reset with
  | false => simp
  | true =>
    have hnil : p.rest = [] := by rw [h.rest_eq, hreset, if_pos rfl]
    rw [hnil]
    exact iff_of_false Bool.false_ne_true (by decide)

end Pass

/-- **What one pass does to any bytes.** Of the sequences of at most `limit`
frames that the bytes begin with it takes the longest, so every other is the
beginning of what it took. If it took fewer than it may, and behind them stands
a whole header that declares more than the maximum, it drops all that is left
and says so; otherwise the bytes were the frames it took and then what is still
there. It says that there are more just where a header is left with all that it
declares, and it counts the packets it handed out. -/
theorem ReceiveBuffer.pass_exact (b : ReceiveBuffer) (max : UInt32) (limit : Nat) :
    ∃ tail, Begins max b.unread (b.pass max limit).1.packets tail ∧
      (b.pass max limit).1.packets.length ≤ limit ∧
      (∀ packets rest, Begins max b.unread packets rest → packets.length ≤ limit →
        packets <+: (b.pass max limit).1.packets) ∧
      ((b.pass max limit).1.reset = true ↔ (b.pass max limit).1.packets.length < limit ∧
        ∃ header, Header.peek? tail = some header ∧ max < header.size) ∧
      ((b.pass max limit).1.reset = true → (b.pass max limit).2 = b.reset) ∧
      ((b.pass max limit).1.reset = false →
        (b.pass max limit).2 = { b with unread := tail } ∧
          b.unread = stream (b.pass max limit).1.packets ++ (b.pass max limit).2.unread) ∧
      ((b.pass max limit).1.more = true ↔
        ∃ header, Header.peek? (b.pass max limit).2.unread = some header ∧
          headerSize + header.size.toNat ≤ (b.pass max limit).2.unread.length) ∧
      (b.pass max limit).1.dispatched = (b.pass max limit).1.packets.length := by
  obtain ⟨tail, h⟩ := Pass.exact_run max limit b.unread
  have hrest : (Pass.run max limit b.unread).rest =
      if (b.pass max limit).1.reset then [] else tail := h.rest_eq
  refine ⟨tail, h.begins, h.within, h.longest, h.reset_iff, ?_, ?_, h.more_iff, rfl⟩
  · intro hreset
    rw [if_pos hreset] at hrest
    simp only [pass, reset, hrest]
  · intro hreset
    rw [if_neg (Bool.eq_false_iff.1 hreset)] at hrest
    simp only [pass, hrest]
    exact ⟨trivial, h.begins.eq_stream_append⟩

end SensorBroker
