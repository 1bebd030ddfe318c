/-
# Spans that are asked for on the command line

A subscription names its period and its delay in milliseconds, each by any
unsigned number of 64 bits. A sensor is asked in nanoseconds, which are signed. A
count of milliseconds that is a signed number as well comes to the nanoseconds it
should come to, or to the greatest number where these are too many
(`nanosMeant`). One that is not is taken for a negative number before it is
multiplied, and comes to a negative span.

So a span is what it should be exactly if its count is a signed number, and spans
grow with their counts only as far as that; but no count except zero comes to
zero. A subscription with a span that is not what it should be is turned down,
and subscribes nobody (`BrokerRun.attached`).

Key definitions: `IsSignedCount`, `nanosMeant`, `Spans`, `BrokerRun.Attached`.
Key theorems: `spans_nanosOfMillis`, `nanosOfMillis_le_iff`,
`Arbitration.effectivePeriod_eq_negative_iff`, `BrokerRun.attached`,
`SubscriptionSpec.spans_of_any_count`.
-/
import SensorBroker.Proofs.CommandLine.Reading
import SensorBroker.Proofs.Service.Admission
import SensorBroker.Proofs.Service.Doubling
import SensorBroker.Run.Subscribers

namespace SensorBroker

/-! ### From milliseconds to nanoseconds -/

/-- A count of milliseconds that is a signed number, too. -/
def IsSignedCount (ms : UInt64) : Prop :=
  (ms.toNat : Int) ≤ Int64.maxValue.toInt

instance (ms : UInt64) : Decidable (IsSignedCount ms) :=
  inferInstanceAs (Decidable (_ ≤ _))

/-- The nanoseconds that so many milliseconds should come to: those they are, or
as many as there can be. -/
def nanosMeant (ms : UInt64) : Int :=
  min (ms.toNat * 1000000) Int64.maxValue.toInt

variable {ms ms' : UInt64}

/-- A count that is no signed number is taken for one that is less by `UInt64.size`. -/
theorem toInt_toInt64 (ms : UInt64) :
    ms.toInt64.toInt = if IsSignedCount ms then (ms.toNat : Int) else ms.toNat - UInt64.size := by
  have hsigned : IsSignedCount ms ↔ 2 * ms.toNat < UInt64.size := by
    rw [IsSignedCount, Int64.toInt_maxValue, UInt64.size]
    omega
  have hcond := BitVec.toInt_eq_toNat_cond ms.toBitVec
  rw [UInt64.toNat_toBitVec] at hcond
  rw [← Int64.toInt_toBitVec, UInt64.toBitVec_toInt64, hcond]
  exact if_congr hsigned.symm rfl rfl

theorem toInt_nanosOfMillis (ms : UInt64) :
    (nanosOfMillis ms).toInt =
      max Int64.minValue.toInt (min Int64.maxValue.toInt (ms.toInt64.toInt * 1000000)) := by
  rw [nanosOfMillis, Int64.toInt_minValue, Int64.toInt_maxValue]
  exact Int64.toInt_ofInt_of_le (by omega) (by omega)

theorem toInt_nanosOfMillis_of_signed (h : IsSignedCount ms) :
    (nanosOfMillis ms).toInt = nanosMeant ms := by
  rw [toInt_nanosOfMillis, toInt_toInt64, if_pos h, nanosMeant, Int64.toInt_minValue,
    Int64.toInt_maxValue]
  omega

theorem toInt_nanosOfMillis_of_not_signed (h : ¬ IsSignedCount ms) :
    (nanosOfMillis ms).toInt = max Int64.minValue.toInt ((ms.toNat - UInt64.size) * 1000000) := by
  have hlt := ms.toNat_lt
  rw [toInt_nanosOfMillis, toInt_toInt64, if_neg h, Int64.toInt_minValue, Int64.toInt_maxValue,
    UInt64.size]
  omega

/-- What becomes of a count of milliseconds: the nanoseconds are those it should
come to, or indeed no fewer than zero, exactly if it is a signed number, and they
are zero exactly if it is. -/
structure Spans (ms : UInt64) (ns : Nanos) : Prop where
  meant_iff : ns.toInt = nanosMeant ms ↔ IsSignedCount ms
  nonneg_iff : 0 ≤ ns.toInt ↔ IsSignedCount ms
  zero_iff : ns = 0 ↔ ms = 0
  /-- What is multiplied is less than the count by `UInt64.size`. -/
  beyond : ¬ IsSignedCount ms →
    ns.toInt = max Int64.minValue.toInt ((ms.toNat - UInt64.size) * 1000000)

theorem nanosMeant_nonneg (ms : UInt64) : 0 ≤ nanosMeant ms := by
  rw [nanosMeant, Int64.toInt_maxValue]
  omega

theorem toInt_nanosOfMillis_neg (h : ¬ IsSignedCount ms) : (nanosOfMillis ms).toInt < 0 := by
  have hlt := ms.toNat_lt
  rw [toInt_nanosOfMillis_of_not_signed h, Int64.toInt_minValue, UInt64.size]
  omega

theorem nanosOfMillis_eq_zero_iff : nanosOfMillis ms = 0 ↔ ms = 0 := by
  rw [← Int64.toInt_inj, Int64.toInt_zero, ← UInt64.toNat_inj, UInt64.toNat_zero]
  by_cases h : IsSignedCount ms
  · rw [toInt_nanosOfMillis_of_signed h, nanosMeant, Int64.toInt_maxValue]
    omega
  · have hneg := toInt_nanosOfMillis_neg h
    rw [IsSignedCount, Int64.toInt_maxValue] at h
    omega

theorem spans_nanosOfMillis (ms : UInt64) : Spans ms (nanosOfMillis ms) where
  meant_iff := by
    refine ⟨fun h => ?_, toInt_nanosOfMillis_of_signed⟩
    by_contra hnot
    have hneg := toInt_nanosOfMillis_neg hnot
    have hmeant := nanosMeant_nonneg ms
    omega
  nonneg_iff := by
    refine ⟨fun h => ?_, fun h => ?_⟩
    · by_contra hnot
      have hneg := toInt_nanosOfMillis_neg hnot
      omega
    · rw [toInt_nanosOfMillis_of_signed h]
      exact nanosMeant_nonneg ms
  zero_iff := nanosOfMillis_eq_zero_iff
  beyond := toInt_nanosOfMillis_of_not_signed

/-- **Spans grow with their counts** except from the signed numbers to those
beyond them. -/
theorem nanosOfMillis_le_iff (h : ms ≤ ms') :
    nanosOfMillis ms ≤ nanosOfMillis ms' ↔ (IsSignedCount ms → IsSignedCount ms') := by
  have hle : (ms.toNat : Int) ≤ ms'.toNat := Int.ofNat_le.2 (UInt64.le_iff_toNat_le.1 h)
  rw [Int64.le_iff_toInt_le]
  by_cases hs : IsSignedCount ms
  · rw [toInt_nanosOfMillis_of_signed hs]
    by_cases hs' : IsSignedCount ms'
    · rw [toInt_nanosOfMillis_of_signed hs', nanosMeant, nanosMeant]
      exact iff_of_true (by omega) fun _ => hs'
    · have hneg := toInt_nanosOfMillis_neg hs'
      have hmeant := nanosMeant_nonneg ms
      exact iff_of_false (by omega) fun himp => hs' (himp hs)
  · have hs' : ¬ IsSignedCount ms' := by
      rw [IsSignedCount] at hs ⊢
      omega
    rw [toInt_nanosOfMillis_of_not_signed hs, toInt_nanosOfMillis_of_not_signed hs']
    exact iff_of_true (by omega) fun hsigned => absurd hsigned hs

/-! ### What becomes of a subscription -/

namespace Arbitration

variable {a : Arbitration} {s : SensorId}

/-- A request to a sensor that is served is turned down as negative exactly if one
of its numbers is. -/
theorem effectivePeriod_eq_negative_iff (hs : s.isValid = true) (hhas : a.hardware.has s = true)
    (request : Request) :
    a.effectivePeriod s request
        = .error (.invalidArgument (.negative request.period request.delay)) ↔
      ¬ (0 ≤ request.period.toInt ∧ 0 ≤ request.delay.toInt) := by
  by_cases hsigns : 0 ≤ request.period.toInt ∧ 0 ≤ request.delay.toInt
  · rw [effectivePeriod_of_nonneg hs hhas hsigns.1 hsigns.2]
    refine iff_of_false (fun h => ?_) (not_not_intro hsigns)
    split_ifs at h
    cases h
  · have hnegative : (request.period < 0 || request.delay < 0) = true := by
      simp only [Bool.or_eq_true, decide_eq_true_eq, Int64.lt_iff_toInt_lt, Int64.toInt_zero]
      omega
    refine iff_of_true ?_ hsigns
    simp only [effectivePeriod, hs, hhas, hnegative]
    rfl

/-- A request that passes the check is recorded with the period it stands for. -/
theorem subscription_of_enable {a' : Arbitration} {pid : Pid} {request : Request}
    {outcome : EnableOutcome} (h : a.enable pid s request = (.ok outcome, a')) :
    0 ≤ request.period.toInt ∧ 0 ≤ request.delay.toInt ∧
      a'.registry.subscription pid s = some ⟨a.divisor request, request.delay⟩ := by
  obtain ⟨period, hw, hw', hchecked, -, -, rfl, -⟩ := enable_ok h
  obtain ⟨hs, hhas, hperiod, hdelay⟩ := checked_of_effectivePeriod hchecked
  rw [effectivePeriod_of_nonneg hs hhas hperiod hdelay] at hchecked
  split_ifs at hchecked
  obtain rfl : a.divisor request = period := Except.ok.inj hchecked
  exact ⟨hperiod, hdelay, a.registry.subscription_put_self ..⟩

end Arbitration

namespace Broker

/-- Opening a data channel changes no settings, and subscribes nobody. -/
theorem openDataChannel_keeps (b : Broker) (caller : Identity) :
    (b.openDataChannel caller).2.arbitration.settings = b.arbitration.settings ∧
      ∀ pid s, (b.openDataChannel caller).2.registry.subscription pid s
        = b.registry.subscription pid s := by
  unfold openDataChannel forPid
  split_ifs
  · exact ⟨rfl, fun _ _ => rfl⟩
  · simp only
    split
    · exact ⟨rfl, fun _ _ => rfl⟩
    · exact ⟨rfl, fun _ _ => rfl⟩

end Broker

namespace BrokerRun

/-- What adding a client comes to: its subscription is refused, and there is no
client more and no subscription, or its counts are signed numbers, and it is
subscribed with the spans they should come to. -/
inductive Attached (r : BrokerRun) (n : Nat) (spec : SubscriptionSpec) : BrokerRun → Prop
  | refused {r' : BrokerRun} (subscribers : r'.subscribers = r.subscribers)
    (kept : ∀ pid s, r'.broker.registry.subscription pid s
      = r.broker.registry.subscription pid s) :
    Attached r n spec r'
  | joined {r' : BrokerRun} {new : Subscriber} {request : Request}
    (subscribers : r'.subscribers = r.subscribers ++ [new])
    (signed : IsSignedCount spec.period ∧ IsSignedCount spec.delay)
    (subscribed : r'.broker.registry.subscription (clientIdentity n).pid spec.sensor
      = some request)
    (default : spec.period = 0 →
      request.period = r.broker.arbitration.settings.defaultPeriod)
    (period : spec.period ≠ 0 → request.period.toInt = nanosMeant spec.period)
    (delay : request.delay.toInt = nanosMeant spec.delay) :
    Attached r n spec r'

/-- **A client is added with the spans it should have, or not at all.** -/
theorem attached (r : BrokerRun) (n : Nat) (spec : SubscriptionSpec) :
    r.Attached n spec (r.attach n spec) := by
  obtain ⟨hsettings, hkept⟩ := r.broker.openDataChannel_keeps (clientIdentity n)
  simp only [attach]
  rcases ho : r.broker.openDataChannel (clientIdentity n) with ⟨_ | id, b⟩
  · rw [ho] at hkept
    exact .refused rfl hkept
  · rw [ho] at hsettings hkept
    have henable := b.enablesFor (clientIdentity n) spec.sensor spec.request
    simp only
    rcases he : b.enable (clientIdentity n) spec.sensor spec.request with ⟨_ | _, b'⟩
    · rw [he] at henable
      cases henable with
      | refused e restored _ =>
        exact .refused rfl fun pid s => (restored.subscription pid s).trans (hkept pid s)
    · rw [he] at henable
      cases henable with
      | subscribed done registry _ =>
        obtain ⟨hperiod, hdelay, hlive⟩ := Arbitration.subscription_of_enable done
        rw [← registry] at hlive
        have hsigned : IsSignedCount spec.period :=
          (spans_nanosOfMillis spec.period).nonneg_iff.1 hperiod
        have hsigned' : IsSignedCount spec.delay :=
          (spans_nanosOfMillis spec.delay).nonneg_iff.1 hdelay
        have hzero : spec.request.period = 0 ↔ spec.period = 0 := nanosOfMillis_eq_zero_iff
        refine .joined rfl ⟨hsigned, hsigned'⟩ hlive (fun hp => ?_) (fun hp => ?_)
          (toInt_nanosOfMillis_of_signed hsigned')
        · rw [Arbitration.divisor, if_pos (hzero.2 hp)]
          exact congrArg ServiceSettings.defaultPeriod hsettings
        · rw [Arbitration.divisor, if_neg (mt hzero.1 hp)]
          exact toInt_nanosOfMillis_of_signed hsigned

/-- Of the greatest count that is a signed number and the next one only the first
has a client. -/
example :
    ((start {} [⟨.accelerometer, 9223372036854775807, 0⟩,
        ⟨.accelerometer, 9223372036854775808, 0⟩]).map fun r =>
      r.subscribers.map fun s => s.stats.pid).toOption = some [10000] := by
  decide +kernel

end BrokerRun

namespace SubscriptionSpec

/-- **What becomes of the spans of a subscription.** Whatever counts of
milliseconds it names, the subscription can be written, with a delay or without.
What is asked of the sensor has a negative span exactly if one of the counts is
beyond the signed numbers, and otherwise the spans that it should have. No count
but zero comes to zero, and spans grow with their counts except across the end of
the signed numbers. A sensor that is served turns the request down as negative
exactly if a count is beyond the signed numbers, so that no client stays whose
sensor was asked for anything else than it should have been. -/
theorem spans_of_any_count (spec : SubscriptionSpec) :
    ofText spec.text = .ok spec ∧
    ofText spec.brief = .ok { spec with delay := 0 } ∧
    Spans spec.period spec.request.period ∧
    Spans spec.delay spec.request.delay ∧
    (∀ ms ms', ms ≤ ms' →
      (nanosOfMillis ms ≤ nanosOfMillis ms' ↔ (IsSignedCount ms → IsSignedCount ms'))) ∧
    (∀ (a : Arbitration) (s : SensorId), s.isValid = true → a.hardware.has s = true →
      (a.effectivePeriod s spec.request
          = .error (.invalidArgument (.negative spec.request.period spec.request.delay)) ↔
        ¬ (IsSignedCount spec.period ∧ IsSignedCount spec.delay))) ∧
    ∀ (r : BrokerRun) (n : Nat), r.Attached n spec (r.attach n spec) := by
  have hperiod := spans_nanosOfMillis spec.period
  have hdelay := spans_nanosOfMillis spec.delay
  refine ⟨spec.ofText_text, spec.ofText_brief, hperiod, hdelay, fun _ _ => nanosOfMillis_le_iff,
    fun a s hs hhas => ?_, fun r n => r.attached n spec⟩
  rw [Arbitration.effectivePeriod_eq_negative_iff hs hhas, ← hperiod.nonneg_iff,
    ← hdelay.nonneg_iff]
  rfl

/-- The longest period that can be written asks for one of minus a millisecond. -/
theorem longest_period_is_negative :
    ofText "1:18446744073709551615" = .ok ⟨.accelerometer, 18446744073709551615, 0⟩ ∧
      (request ⟨.accelerometer, 18446744073709551615, 0⟩).period = -1000000 ∧
      nanosMeant 18446744073709551615 = 9223372036854775807 := by
  decide +kernel

end SubscriptionSpec
end SensorBroker
