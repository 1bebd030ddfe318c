/-
# What is read is exactly what is written

Each record has one form on the wire: bytes are read as a value, with a rest,
just when they are the bytes of the value and then the rest (`Codec.Exact`).
From this one law follow both directions of the round trip, and that no bytes
but all of them are read as a record (`Codec.Exact.rejects_part`). It holds of
numbers, truth values, runs and texts, and of what is put together from codecs
that have it.

A length is written in eight bytes. A run or a text longer than these can say
has no exact form, so the law of a record asks that its runs are not
(`RecordKind.Sized`); a packet that fits into a frame asks for nothing.

Key definitions: `Codec.Exact`, `RecordKind`, `RecordKind.codec`,
`RecordKind.Sized`.
Key theorems: `Codec.Exact.via`, `Codec.Exact.pair`, `Utf8.decode?_eq_some_iff`,
`Codec.Exact.rejects_part`, `RecordKind.exact`, `RecordKind.written_is_read`.
-/
import Mathlib.Tactic.ByContra
import SensorBroker.Proofs.Wire.Records

namespace SensorBroker

/-! ### Texts from their bytes -/

namespace Utf8

theorem toList_loop (bs : ByteArray) (i : Nat) (r : List UInt8) :
    ByteArray.toList.loop bs i r = r.reverse ++ bs.data.toList.drop i := by
  fun_induction ByteArray.toList.loop bs i r with
  | case1 i r h ih =>
    have hi : i < bs.data.toList.length := h
    have hget : bs.get! i = bs.data.toList[i] := by
      rw [Array.getElem_toList]
      exact getElem!_pos bs.data i h
    rw [ih, hget, List.reverse_cons, List.append_assoc, List.singleton_append,
      ← List.drop_eq_getElem_cons hi]
  | case2 i r h =>
    have hi : bs.data.toList.length ≤ i := Nat.not_lt.1 h
    rw [List.drop_eq_nil_of_le hi, List.append_nil]

theorem encode_eq (s : String) : encode s = s.toByteArray.data.toList := by
  unfold encode ByteArray.toList
  rw [toList_loop]
  rfl

/-- Bytes are a text just when they are its bytes. -/
theorem decode?_eq_some_iff {bs : Bytes} {s : String} : decode? bs = some s ↔ bs = encode s := by
  unfold decode? String.fromUTF8?
  rw [encode_eq]
  constructor
  · intro h
    split at h
    · rw [← Option.some.inj h]
      rfl
    · cases h
  · intro h
    have hbytes : (⟨bs.toArray⟩ : ByteArray) = s.toByteArray := by
      rw [h, Array.toArray_toList]
    have hvalid : (⟨bs.toArray⟩ : ByteArray).IsValidUTF8 := by
      rw [hbytes]
      exact s.isValidUTF8
    rw [dif_pos hvalid]
    congr 1
    exact String.toByteArray_inj.1 hbytes

end Utf8

namespace Codec

variable {α β : Type} {c : Codec α} {d : Codec β} {good : α → Prop} {fine : β → Prop}

theorem decode_via_eq_ok_iff {forth : β → α} {back : α → β} {bs rest : Bytes} {b : β} :
    (c.via forth back).decode bs = .ok (b, rest) ↔
      ∃ a, c.decode bs = .ok (a, rest) ∧ back a = b := by
  simp only [Codec.via]
  split
  · next a rest' h =>
    rw [h]
    constructor
    · intro hread
      obtain ⟨hb, rfl⟩ := Prod.mk.inj (Except.ok.inj hread)
      exact ⟨a, rfl, hb⟩
    · rintro ⟨a', hread, rfl⟩
      obtain ⟨rfl, rfl⟩ := Prod.mk.inj (Except.ok.inj hread)
      rfl
  · next e h => simp [h]

theorem decode_pair_eq_ok_iff {bs rest : Bytes} {a : α} {b : β} :
    (c.pair d).decode bs = .ok ((a, b), rest) ↔
      ∃ between, c.decode bs = .ok (a, between) ∧ d.decode between = .ok (b, rest) := by
  simp only [Codec.pair]
  split
  · next e h => simp [h]
  · next a' between h =>
    split
    · next e h' => simp [h, h']
    · next b' rest' h' => simp [h, h', and_assoc]

/-- Bytes are read as a value, with a rest, just when they are the bytes of the
value and then the rest, and the value is one of those that can be written. -/
structure Exact (c : Codec α) (good : α → Prop) : Prop where
  read_iff : ∀ {bs a rest}, c.decode bs = .ok (a, rest) ↔ bs = c.encode a ++ rest ∧ good a

namespace Exact

theorem congr (h : c.Exact good) {good' : α → Prop} (same : ∀ a, good a ↔ good' a) :
    c.Exact good' where
  read_iff {bs a rest} := by rw [← same a, h.read_iff]

theorem readsBack (h : c.Exact good) {a : α} (ha : good a) : c.ReadsBack a :=
  fun _ => h.read_iff.2 ⟨rfl, ha⟩

/-- What was read is at the front. -/
theorem encode_prefix (h : c.Exact good) {bs rest : Bytes} {a : α}
    (hread : c.decode bs = .ok (a, rest)) : c.encode a <+: bs := by
  obtain ⟨rfl, -⟩ := h.read_iff.1 hread
  exact List.prefix_append ..

/-- **A part of a record is no record.** Were one read from it, the whole would
be read as two different values. -/
theorem rejects_part (h : c.Exact good) {a : α} (ha : good a) {part : Bytes}
    (hpart : part <+: c.encode a) (hproper : part ≠ c.encode a) :
    ∃ e, c.decode part = .error e := by
  cases hread : c.decode part with
  | error e => exact ⟨e, rfl⟩
  | ok read =>
    exfalso
    obtain ⟨a', rest⟩ := read
    obtain ⟨more, hmore⟩ := hpart
    obtain ⟨rfl, ha'⟩ := h.read_iff.1 hread
    have hwhole : c.decode (c.encode a) = .ok (a, []) := by
      simpa only [List.append_nil] using h.readsBack ha []
    have hfront : c.decode (c.encode a) = .ok (a', rest ++ more) := by
      rw [← hmore, List.append_assoc]
      exact h.readsBack ha' (rest ++ more)
    rw [hwhole] at hfront
    obtain ⟨rfl, hnil⟩ := Prod.mk.inj (Except.ok.inj hfront)
    obtain ⟨rfl, rfl⟩ := List.append_eq_nil_iff.1 hnil.symm
    exact hproper (List.append_nil _)

/-- A codec through another has the law if the way there and back is one. -/
theorem via (h : c.Exact good) {forth : β → α} {back : α → β}
    (hback : ∀ b, back (forth b) = b) (hforth : ∀ a, good a → forth (back a) = a) :
    (c.via forth back).Exact fun b => good (forth b) := by
  refine ⟨fun {bs b rest} => ?_⟩
  rw [decode_via_eq_ok_iff]
  constructor
  · rintro ⟨a, hread, rfl⟩
    obtain ⟨hbytes, ha⟩ := h.read_iff.1 hread
    have hsame := hforth a ha
    simp only [Codec.via, hsame]
    exact ⟨hbytes, ha⟩
  · rintro ⟨hbytes, hb⟩
    exact ⟨forth b, h.read_iff.2 ⟨hbytes, hb⟩, hback b⟩

/-- One value behind the other has the law if both have it. -/
theorem pair (h : c.Exact good) (h' : d.Exact fine) :
    (c.pair d).Exact fun p => good p.1 ∧ fine p.2 := by
  refine ⟨fun {bs p rest} => ?_⟩
  obtain ⟨a, b⟩ := p
  rw [decode_pair_eq_ok_iff]
  constructor
  · rintro ⟨between, hread, hread'⟩
    obtain ⟨rfl, ha⟩ := h.read_iff.1 hread
    obtain ⟨rfl, hb⟩ := h'.read_iff.1 hread'
    exact ⟨by rw [Codec.pair, List.append_assoc], ha, hb⟩
  · rintro ⟨hbytes, ha, hb⟩
    refine ⟨d.encode b ++ rest, h.read_iff.2 ⟨?_, ha⟩, h'.read_iff.2 ⟨rfl, hb⟩⟩
    rw [hbytes, Codec.pair, List.append_assoc]

end Exact

/-! ### Numbers and truth values -/

theorem exact_word (width : Nat) : (word width).Exact fun n => n < 256 ^ width := by
  refine ⟨fun {bs n rest} => ?_⟩
  constructor
  · intro hread
    unfold word at hread
    simp only at hread
    split at hread
    · next run rest' htake =>
      obtain ⟨rfl, rfl⟩ := Prod.mk.inj (Except.ok.inj hread)
      obtain ⟨rfl, hlen⟩ := takeExactly_eq_some_iff.1 htake
      rw [← hlen]
      refine ⟨?_, ofLittleEndian_lt run⟩
      simp only [word, littleEndian_ofLittleEndian]
    · cases hread
  · rintro ⟨rfl, hn⟩
    exact readsBack_word hn rest

theorem exact_uint32 : uint32.Exact fun _ => True :=
  ((exact_word 4).via (fun _ => UInt32.ofNat_toNat) fun _ hn =>
    UInt32.toNat_ofNat_of_lt' hn).congr fun x => iff_true_intro x.toNat_lt

theorem exact_int32 : int32.Exact fun _ => True :=
  exact_uint32.via Int32.toInt32_toUInt32 fun x _ => UInt32.toUInt32_toInt32 x

theorem exact_int64 : int64.Exact fun _ => True := by
  have hword : int64.Exact fun x => x.toUInt64.toNat < 256 ^ 8 := by
    refine (exact_word 8).via (fun x => ?_) fun n hn => ?_
    · rw [UInt64.ofNat_toNat, Int64.toInt64_toUInt64]
    · rw [UInt64.toUInt64_toInt64]
      exact UInt64.toNat_ofNat_of_lt' hn
  exact hword.congr fun x => iff_true_intro x.toUInt64.toNat_lt

theorem exact_single : single.Exact fun _ => True :=
  exact_uint32.via (fun _ => rfl) fun _ _ => rfl

theorem exact_sensorId : sensorId.Exact fun _ => True :=
  exact_int32.via (fun _ => rfl) fun _ _ => rfl

theorem exact_truth : truth.Exact fun _ => True := by
  refine ⟨fun {bs b rest} => ?_⟩
  constructor
  · intro hread
    unfold truth at hread ⊢
    simp only at hread
    split at hread
    · cases hread
    · next byte rest' =>
      split at hread
      · next h0 =>
        cases hread
        exact ⟨by rw [h0]; rfl, trivial⟩
      · split at hread
        · next h1 =>
          cases hread
          exact ⟨by rw [h1]; rfl, trivial⟩
        · cases hread
  · rintro ⟨rfl, -⟩
    exact readsBack_truth b rest

/-! ### Runs and texts -/

/-- A length that eight bytes can say. -/
def Sayable (length : Nat) : Prop :=
  length < 256 ^ 8

instance (length : Nat) : Decidable (Sayable length) :=
  inferInstanceAs (Decidable (length < 256 ^ 8))

theorem exact_run : run.Exact fun bs => Sayable bs.length := by
  refine ⟨fun {bs r rest} => ?_⟩
  constructor
  · intro hread
    unfold run at hread
    simp only at hread
    split at hread
    · cases hread
    · next n behind hlength =>
      obtain ⟨rfl, hn⟩ := (exact_word 8).read_iff.1 hlength
      split at hread
      · next r' rest' htake =>
        obtain ⟨rfl, rfl⟩ := Prod.mk.inj (Except.ok.inj hread)
        obtain ⟨rfl, rfl⟩ := takeExactly_eq_some_iff.1 htake
        exact ⟨by rw [run, List.append_assoc], hn⟩
      · cases hread
  · rintro ⟨rfl, hr⟩
    exact readsBack_run hr rest

theorem exact_text : text.Exact fun s => Sayable (Utf8.encode s).length := by
  refine ⟨fun {bs s rest} => ?_⟩
  constructor
  · intro hread
    unfold text at hread
    simp only at hread
    split at hread
    · cases hread
    · next bytes rest' hrun =>
      obtain ⟨rfl, hbytes⟩ := exact_run.read_iff.1 hrun
      split at hread
      · next s' hs =>
        obtain ⟨rfl, rfl⟩ := Prod.mk.inj (Except.ok.inj hread)
        obtain rfl := Utf8.decode?_eq_some_iff.1 hs
        exact ⟨rfl, hbytes⟩
      · cases hread
  · rintro ⟨rfl, hs⟩
    have hrun : run.decode (run.encode (Utf8.encode s) ++ rest) = .ok (Utf8.encode s, rest) :=
      exact_run.read_iff.2 ⟨rfl, hs⟩
    have hback : Utf8.decode? (Utf8.encode s) = some s := Utf8.decode?_eq_some_iff.2 rfl
    unfold text
    simp only [hrun, hback]

/-! ### Records -/

theorem exact_event : event.Exact fun e => Sayable e.data.length := by
  have hfields := exact_sensorId.pair (exact_int32.pair (exact_int64.pair (exact_int32.pair
    (exact_int32.pair exact_run))))
  refine (hfields.via (fun _ => rfl) fun _ _ => rfl).congr fun e => ?_
  simp only [true_and]

theorem exact_descriptor : descriptor.Exact fun d =>
    Sayable (Utf8.encode d.name).length ∧ Sayable (Utf8.encode d.vendor).length ∧
      Sayable (Utf8.encode d.firmwareVersion).length ∧
      Sayable (Utf8.encode d.hardwareVersion).length := by
  have hfields := exact_sensorId.pair (exact_sensorId.pair (exact_text.pair (exact_text.pair
    (exact_text.pair (exact_text.pair (exact_single.pair (exact_single.pair (exact_single.pair
      (exact_int64.pair (exact_int64.pair exact_uint32))))))))))
  refine (hfields.via (fun _ => rfl) fun _ _ => rfl).congr fun d => ?_
  simp only [true_and, and_true]

theorem exact_activeInfo : activeInfo.Exact fun _ => True := by
  have hfields := exact_int32.pair (exact_sensorId.pair (exact_int64.pair exact_int64))
  refine (hfields.via (fun _ => rfl) fun _ _ => rfl).congr fun i => ?_
  simp only [and_self]

theorem exact_subscriptionReport : subscriptionReport.Exact fun _ => True := by
  have hfields := exact_int32.pair (exact_sensorId.pair (exact_truth.pair
    (exact_int64.pair exact_int64)))
  refine (hfields.via (fun _ => rfl) fun _ _ => rfl).congr fun r => ?_
  simp only [and_self]

/-- A text is part of the record it is in. -/
theorem length_encode_text (s : String) : (text.encode s).length = 8 + (Utf8.encode s).length := by
  simp [text, run, word]

end Codec

/-- The records that travel in payloads. -/
inductive RecordKind
  | event
  | descriptor
  | activeInfo
  | subscriptionReport
deriving DecidableEq, Inhabited

namespace RecordKind

/-- What a record of a kind says. -/
def Value : RecordKind → Type
  | .event => Event
  | .descriptor => Descriptor
  | .activeInfo => ActiveInfo
  | .subscriptionReport => SubscriptionReport

/-- How a record of a kind is written and read. -/
def codec : (k : RecordKind) → Codec k.Value
  | .event => .event
  | .descriptor => .descriptor
  | .activeInfo => .activeInfo
  | .subscriptionReport => .subscriptionReport

/-- The runs and texts of a record are of lengths that eight bytes can say, as
those that are in memory are. -/
def Sized : (k : RecordKind) → k.Value → Prop
  | .event => fun (e : Event) => Codec.Sayable e.data.length
  | .descriptor => fun (d : Descriptor) =>
    Codec.Sayable (Utf8.encode d.name).length ∧ Codec.Sayable (Utf8.encode d.vendor).length ∧
      Codec.Sayable (Utf8.encode d.firmwareVersion).length ∧
      Codec.Sayable (Utf8.encode d.hardwareVersion).length
  | .activeInfo => fun _ => True
  | .subscriptionReport => fun _ => True

/-- **Every record is read just as it is written.** -/
theorem exact (k : RecordKind) : k.codec.Exact k.Sized := by
  cases k with
  | event => exact Codec.exact_event
  | descriptor => exact Codec.exact_descriptor
  | activeInfo => exact Codec.exact_activeInfo
  | subscriptionReport => exact Codec.exact_subscriptionReport

/-- A record whose bytes can be counted in eight bytes has no run or text that
cannot. -/
theorem sized_of_sayable {k : RecordKind} {v : k.Value}
    (h : Codec.Sayable (k.codec.encode v).length) : k.Sized v := by
  unfold Codec.Sayable at h
  cases k with
  | event => exact Nat.lt_of_le_of_lt (Codec.length_data_le v) h
  | descriptor =>
    have hlength : (Codec.descriptor.encode v).length < 256 ^ 8 := h
    simp only [Codec.descriptor, Codec.via, Codec.pair, List.length_append,
      Codec.length_encode_text] at hlength
    unfold Sized Codec.Sayable
    omega
  | activeInfo => trivial
  | subscriptionReport => trivial

end RecordKind

/-! ### Records in frames -/

theorem Packet.exists_frame?_iff {p : Packet} {max : UInt32} :
    (∃ bs, p.frame? max = .ok bs) ↔ p.Fits max := by
  constructor
  · rintro ⟨bs, hframe⟩
    by_contra hlong
    have hnone : p.frame max = .error ⟨p.payload.length, max⟩ := if_neg hlong
    simp only [Packet.frame?, hnone] at hframe
    cases hframe
  · intro hfits
    refine ⟨p.bytes, ?_⟩
    simp only [Packet.frame?, Packet.frame_of_fits hfits]

theorem Packet.eq_bytes_of_frame? {p : Packet} {max : UInt32} {bs : Bytes}
    (h : p.frame? max = .ok bs) : p.Fits max ∧ bs = p.bytes := by
  have hfits := Packet.exists_frame?_iff.1 ⟨bs, h⟩
  simp only [Packet.frame?, Packet.frame_of_fits hfits] at h
  exact ⟨hfits, (Except.ok.inj h).symm⟩

/-- A pass that may take a frame takes the one at the front first. -/
theorem Pass.head?_run_of_whole {max : UInt32} {bs rest : Bytes} {p : Packet}
    (h : Front.of max bs = .whole p rest) (limit : Nat) :
    (Pass.run max (limit + 1) bs).packets.head? = some p := by
  rw [Pass.run, h]
  simp only
  split
  · rfl
  · rfl

/-- A payload that is not a record is refused as such. -/
theorem Packet.record_error_of_decode {α : Type} {c : Codec α} {message : UInt32} {bs : Bytes}
    {e : DecodeError} (h : c.decode bs = .error e) :
    (Packet.mk message bs).record c = .error (.codec message ("bincode error: " ++ e.message)) := by
  unfold Packet.record
  simp only [h]

theorem Packet.decode_of_record {α : Type} {c : Codec α} {p : Packet} {a : α}
    (h : p.record c = .ok a) : ∃ rest, c.decode p.payload = .ok (a, rest) := by
  unfold Packet.record at h
  split at h
  · next a' rest hread =>
    cases h
    exact ⟨rest, hread⟩
  · cases h

/-- **What is written is read, and nothing else is.** A record has a frame just
if its payload is no longer than the maximum; whatever follows that frame, the
packet is taken out of it first, says which message it is, and holds that very
record. Where a payload is read as a record, the bytes of that record are at
the front of it; and no part of the bytes of a record, short of all, is read as
one. -/
theorem RecordKind.written_is_read (k : RecordKind) (m : Message) (max : UInt32) :
    (∀ v : k.Value,
      ((∃ frame, (Packet.ofRecord k.codec m v).frame? max = .ok frame) ↔
        (k.codec.encode v).length ≤ max.toNat) ∧
      ∀ frame, (Packet.ofRecord k.codec m v).frame? max = .ok frame →
        ∀ (rest : Bytes) (limit : Nat), ∃ p : Packet,
          (Pass.run max (limit + 1) (frame ++ rest)).packets.head? = some p ∧
          p.message = m.id ∧ p.payload = k.codec.encode v ∧ p.kind = .ok m ∧
          p.record k.codec = .ok v) ∧
    (∀ (message : UInt32) (bs : Bytes) (v : k.Value),
      (Packet.mk message bs).record k.codec = .ok v → k.codec.encode v <+: bs) ∧
    ∀ (message : UInt32) (v : k.Value), k.Sized v →
      ∀ part : Bytes, part <+: k.codec.encode v → part ≠ k.codec.encode v →
        ∃ detail, (Packet.mk message part).record k.codec = .error (.codec message detail) := by
  refine ⟨fun v => ⟨Packet.exists_frame?_iff, fun frame hframe rest limit => ?_⟩,
    fun message bs v hread => ?_, fun message v hsized part hpart hproper => ?_⟩
  · obtain ⟨hfits, rfl⟩ := Packet.eq_bytes_of_frame? hframe
    have hsized : k.Sized v := by
      apply sized_of_sayable
      have hle : (k.codec.encode v).length ≤ max.toNat := hfits
      have hmax : max.toNat < 2 ^ 32 := max.toNat_lt
      exact Nat.lt_of_le_of_lt hle (Nat.lt_trans hmax (by decide))
    have hback := k.exact.readsBack hsized
    exact ⟨_, Pass.head?_run_of_whole (Front.of_bytes_append hfits rest) limit, rfl, rfl,
      Packet.kind_ofRecord k.codec m v, Packet.record_ofRecord hback m⟩
  · obtain ⟨rest, hdecode⟩ := Packet.decode_of_record hread
    exact k.exact.encode_prefix hdecode
  · obtain ⟨e, he⟩ := k.exact.rejects_part hsized hpart hproper
    exact ⟨_, Packet.record_error_of_decode he⟩

/-- Four bytes of data: the payload has thirty-six. Behind its frame stand two
bytes that do not belong to it; of the payload alone, the last byte is cut
off. -/
theorem RecordKind.event_written_is_read :
    let e : Event := ⟨.accelerometer, 0, 42, 0, 0, [1, 2, 3, 4]⟩
    let p : Packet := .ofRecord .event .sensorEvent e
    p.frame? 36 = .ok p.bytes ∧
      ((Pass.run 36 1 (p.bytes ++ [9, 9])).packets.head?.map fun q => q.record .event) =
        some (.ok e) ∧
      RecordKind.event.Sized e ∧
      ∃ detail, (Packet.mk 1 (p.payload.take 35)).record Codec.event =
        .error (.codec 1 detail) := by
  intro e p
  obtain ⟨hwritten, -, hcut⟩ := RecordKind.written_is_read .event .sensorEvent 36
  have hframe : p.frame? 36 = .ok p.bytes := rfl
  have hsized : RecordKind.event.Sized e := by
    show Codec.Sayable 4
    decide
  refine ⟨hframe, ?_, hsized, ?_⟩
  · obtain ⟨q, hq, -, -, -, hrecord⟩ := (hwritten e).2 _ hframe [9, 9] 0
    rw [hq, Option.map_some]
    exact congrArg some hrecord
  · exact hcut 1 e hsized _ (List.take_prefix _ _) (by decide)

/-- Fields follow each other without gaps, each lowest byte first, and data
stand behind their length. -/
example : Codec.event.encode ⟨⟨1⟩, 2, -1, 4, 5, [6]⟩ =
    [1, 0, 0, 0, 2, 0, 0, 0, 255, 255, 255, 255, 255, 255, 255, 255, 4, 0, 0, 0, 5, 0, 0, 0,
      1, 0, 0, 0, 0, 0, 0, 0, 6] := by decide

end SensorBroker
