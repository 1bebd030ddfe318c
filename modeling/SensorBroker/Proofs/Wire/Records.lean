/-
# Events and reports are read back

The record of an event reads back if its data are no longer than eight bytes
of length can say, which those of every packet that fits are. So a frame that
carries an event says which kind it is and holds that very event. The record of
a report reads back always, and all reports are of one length.

Key definitions: `SubscriptionReport.packet`, `SubscriptionReport.ofPacket?`.
Key theorems: `Codec.readsBack_event`, `Packet.kind_ofRecord`,
`Packet.record_of_fits`, `SubscriptionReport.ofPacket?_packet`.
-/
import SensorBroker.Channel.Error
import SensorBroker.Proofs.Wire.Frame

namespace SensorBroker
namespace Codec

theorem readsBack_int32 (x : Int32) : int32.ReadsBack x :=
  (readsBack_uint32 x.toUInt32).via (Int32.toInt32_toUInt32 x)

theorem readsBack_int64 (x : Int64) : int64.ReadsBack x := by
  refine (readsBack_word x.toUInt64.toNat_lt).via ?_
  rw [UInt64.ofNat_toNat, Int64.toInt64_toUInt64]

theorem readsBack_sensorId (s : SensorId) : sensorId.ReadsBack s :=
  (readsBack_int32 s.raw).via rfl

theorem readsBack_run {bs : Bytes} (h : bs.length < 256 ^ 8) : run.ReadsBack bs := by
  intro rest
  have hword : (word 8).ReadsBack bs.length := readsBack_word h
  have hlength := hword (bs ++ rest)
  simp only [run, List.append_assoc, hlength, takeExactly_append]

/-- An event reads back, whatever its fields are. -/
theorem readsBack_event {e : Event} (h : e.data.length < 256 ^ 8) : event.ReadsBack e := by
  have hfields := (readsBack_sensorId e.sensor).pair ((readsBack_int32 e.version).pair
    ((readsBack_int64 e.timestamp).pair ((readsBack_int32 e.option).pair
      ((readsBack_int32 e.mode).pair (readsBack_run h)))))
  unfold event
  refine ReadsBack.via ?_ rfl
  exact hfields

theorem readsBack_truth (b : Bool) : truth.ReadsBack b := by
  intro rest
  cases b <;> rfl

/-- A report reads back, whatever its fields are. -/
theorem readsBack_subscriptionReport (r : SubscriptionReport) :
    subscriptionReport.ReadsBack r := by
  have hfields := (readsBack_int32 r.pid).pair ((readsBack_sensorId r.sensor).pair
    ((readsBack_truth r.isActive).pair ((readsBack_int64 r.period).pair (readsBack_int64 r.delay))))
  unfold subscriptionReport
  refine ReadsBack.via ?_ rfl
  exact hfields

/-- Process and sensor take four bytes each, period and delay eight. -/
theorem length_subscriptionReport (r : SubscriptionReport) :
    (subscriptionReport.encode r).length = 25 := by
  simp [subscriptionReport, sensorId, int32, uint32, int64, truth, word, Codec.via, Codec.pair]

/-- The data are part of the record. -/
theorem length_data_le (e : Event) : e.data.length ≤ (event.encode e).length := by
  simp only [event, Codec.via, Codec.pair, run, List.length_append]
  omega

end Codec

namespace Packet

@[simp] theorem kind_ofRecord {α : Type} (c : Codec α) (m : Message) (a : α) :
    (ofRecord c m a).kind = .ok m := by
  have hid : Message.ofId? m.id = .ok m := Message.ofId?_eq_ok_iff.2 rfl
  unfold kind ofRecord
  rw [hid]

/-- A record that reads back is in its packet. -/
theorem record_ofRecord {α : Type} {c : Codec α} {a : α} (h : c.ReadsBack a) (m : Message) :
    (ofRecord c m a).record c = .ok a := by
  have hback : c.decode (c.encode a) = .ok (a, []) := by
    simpa only [List.append_nil] using h []
  unfold record ofRecord
  simp only [hback]

/-- **A packet that fits gives back its event.** -/
theorem record_of_fits {m : Message} {e : Event} {max : UInt32}
    (h : (ofRecord .event m e).Fits max) : (ofRecord .event m e).record .event = .ok e := by
  have hdata : e.data.length < 256 ^ 8 := by
    have hle := Codec.length_data_le e
    have hfits : (ofRecord .event m e).payload.length ≤ max.toNat := h
    have hmax : max.toNat < 2 ^ 32 := max.toNat_lt
    have hpow : 2 ^ 32 ≤ 256 ^ 8 := by decide
    exact Nat.lt_of_le_of_lt (Nat.le_trans hle hfits) (Nat.lt_of_lt_of_le hmax hpow)
  exact record_ofRecord (Codec.readsBack_event hdata) m

end Packet

namespace SubscriptionReport

/-- The packet of a report. -/
def packet (r : SubscriptionReport) : Packet :=
  .ofRecord .subscriptionReport .activeInfo r

/-- The report in a packet, if it holds one. -/
def ofPacket? (p : Packet) : Option SubscriptionReport :=
  match p.kind with
  | .ok .activeInfo => (p.record .subscriptionReport).toOption
  | _ => none

/-- **The packet of a report gives it back.** -/
@[simp] theorem ofPacket?_packet (r : SubscriptionReport) : ofPacket? r.packet = some r := by
  have hkind : r.packet.kind = .ok .activeInfo := Packet.kind_ofRecord ..
  have hrecord : r.packet.record .subscriptionReport = .ok r :=
    Packet.record_ofRecord (Codec.readsBack_subscriptionReport r) .activeInfo
  unfold ofPacket?
  simp only [hkind, hrecord]
  rfl

theorem fits_packet {max : UInt32} (h : 25 ≤ max.toNat) (r : SubscriptionReport) :
    r.packet.Fits max :=
  Nat.le_trans (Nat.le_of_eq (Codec.length_subscriptionReport r)) h

end SubscriptionReport
end SensorBroker
