/-
# Subscriptions are read as they are written

A whole number that is written in decimal is read as that number, if it is in the
range that is asked for. It is written without colons and without white space, so
with colons between them numbers are read one by one. So every subscription can be
written, whatever it names; one without a delay is read as one with delay zero.

Key definitions: `SubscriptionSpec.joined`, `SubscriptionSpec.text`,
`SubscriptionSpec.brief`.
Key theorems: `Text.whole?_toString`, `SubscriptionSpec.splitToList_joined`,
`SubscriptionSpec.ofText_text`, `SubscriptionSpec.ofText_brief`.
-/
import Mathlib.Data.String.Basic
import SensorBroker.CommandLine.Subscription
import SensorBroker.Proofs.Config.Digits

namespace SensorBroker

/-! ### How numbers are read -/

namespace Text

variable {limit : Nat} {beyond : WholeFlaw}

/-- Digits are read as what they stand for, if that is within the limit. -/
theorem wholeUpTo_of_digits : ∀ {cs : List Char} {n : Nat}, (∀ c ∈ cs, isDigit c = true) →
    Nat.ofDigitChars 10 cs n ≤ limit →
    wholeUpTo limit beyond cs n = .ok (Nat.ofDigitChars 10 cs n)
  | [], _, _, _ => rfl
  | c :: cs, n, hdigits, hlimit => by
    obtain ⟨hc, hcs⟩ := List.forall_mem_cons.1 hdigits
    have hnext : n * 10 + digitValue c = 10 * n + (c.toNat - '0'.toNat) := by
      rw [digitValue_of_isDigit hc, Nat.mul_comm]
    rw [Nat.ofDigitChars_cons] at hlimit
    have hfits : ¬ limit < 10 * n + (c.toNat - '0'.toNat) :=
      Nat.not_lt.2 ((le_ofDigitChars cs _).trans hlimit)
    rw [wholeUpTo, hc, Bool.not_true, if_neg Bool.false_ne_true, hnext, if_neg hfits,
      wholeUpTo_of_digits hcs hlimit, Nat.ofDigitChars_cons]

theorem wholeDigits_toDigits {k : Nat} (h : k ≤ limit) :
    wholeDigits limit beyond (Nat.toDigits 10 k) = .ok k := by
  have hvalue : Nat.ofDigitChars 10 (Nat.toDigits 10 k) 0 = k := Nat.ofDigitChars_ten_toDigits
  have hread : wholeUpTo limit beyond (Nat.toDigits 10 k) 0 = _ :=
    wholeUpTo_of_digits (fun _ hc => isDigit_of_mem_toDigits hc) (hvalue.trans_le h)
  obtain ⟨d, ds, hds, -⟩ := toDigits_eq_cons k
  rw [hvalue] at hread
  rw [hds] at hread ⊢
  exact hread

/-- **A number of the range is read as it was written.** -/
theorem whole?_toString {low high n : Int} (hlow : low ≤ n) (hhigh : n ≤ high) :
    whole? low high (toString n) = .ok n := by
  rcases toString_cases n with ⟨k, rfl, hk⟩ | ⟨k, hpos, rfl, hk⟩
  · obtain ⟨d, ds, hds, hd⟩ := toDigits_eq_cons k
    have hread : wholeDigits high.toNat .tooLarge (d :: ds) = .ok k :=
      hds ▸ wholeDigits_toDigits (by omega)
    rw [whole?, hk, hds]
    -- No digit is a sign.
    split
    · next h => cases h
    · next h => exact absurd (List.cons.inj h).1 (ne_of_isDigit hd (by decide))
    · next h => exact absurd (List.cons.inj h).1 (ne_of_isDigit hd (by decide))
    · rw [hread]
      rfl
  · have hread : wholeDigits (-low).toNat .tooSmall (Nat.toDigits 10 k) = .ok k :=
      wholeDigits_toDigits (by omega)
    rw [whole?, hk]
    simp only
    rw [if_neg (by omega), hread]
    rfl

theorem isSpace_of_isDigit {c : Char} (h : isDigit c = true) : isSpace c = false := by
  have hrange : 48 ≤ c.toNat ∧ c.toNat ≤ 57 := by
    simpa [isDigit, Char.le_def, UInt32.le_iff_toNat_le] using h
  simp [isSpace]
  omega

theorem trim_toString (n : Int) : trim (toString n) = toString n := by
  have hnone : ∀ c ∈ (toString n).toList, isSpace c = false := fun c hc => by
    rcases mem_toString hc with rfl | hdigit
    · decide
    · exact isSpace_of_isDigit hdigit
  have hdrop : ∀ cs : List Char, (∀ c ∈ cs, isSpace c = false) → cs.dropWhile isSpace = cs := by
    rintro (_ | ⟨c, cs⟩) h
    · rfl
    · rw [List.dropWhile_cons_of_neg (by simp [h c List.mem_cons_self])]
  simp only [trim]
  rw [hdrop _ hnone, hdrop _ fun c hc => hnone c (List.mem_reverse.1 hc), List.reverse_reverse,
    String.ofList_toList]

end Text

/-! ### How subscriptions are read -/

namespace SubscriptionSpec

open Text

/-- Numbers as the parts of a text. -/
def joined (ns : List Int) : String :=
  ":".intercalate (ns.map toString)

/-- A subscription as it is written. -/
def text (spec : SubscriptionSpec) : String :=
  joined [spec.sensor.toInt, spec.period.toNat, spec.delay.toNat]

/-- A subscription as it is written without its delay. -/
def brief (spec : SubscriptionSpec) : String :=
  joined [spec.sensor.toInt, spec.period.toNat]

/-- No number is written with a colon, so each is a part. -/
theorem splitToList_joined {ns : List Int} (hne : ns ≠ []) :
    (joined ns).splitToList (· == ':') = ns.map toString := by
  have hcolon : ∀ cs ∈ (ns.map toString).map String.toList, ':' ∉ cs := by
    intro cs hcs hmem
    obtain ⟨_, hs, rfl⟩ := List.mem_map.1 hcs
    obtain ⟨n, -, rfl⟩ := List.mem_map.1 hs
    rcases mem_toString hmem with h | h
    · exact absurd h (by decide)
    · exact absurd h (by decide)
  have hsplit := List.splitOn_intercalate ':' hcolon (by simpa using hne)
  rw [List.splitOn_eq_splitOnP] at hsplit
  rw [joined, String.splitToList_of_valid, String.toList_intercalate]
  show ((([':'] : List Char).intercalate _).splitOnP _).map _ = _
  rw [hsplit]
  simp

theorem part_toString {name : String} {low high n : Int} (hlow : low ≤ n) (hhigh : n ≤ high) :
    part name low high (toString n) = .ok n := by
  rw [part, trim_toString, whole?_toString hlow hhigh]

theorem millis_toString (name : String) (ms : UInt64) :
    millis name (toString (ms.toNat : Int)) = .ok ms := by
  have hlt := ms.toNat_lt
  rw [millis, part_toString (Int.natCast_nonneg _) (by simp only [UInt64.size]; omega)]
  show Except.ok (UInt64.ofNat (ms.toNat : Int).toNat) = _
  rw [Int.toNat_natCast, UInt64.ofNat_toNat]

theorem part_sensor (name : String) (s : SensorId) :
    part name Int32.minValue.toInt Int32.maxValue.toInt s.text = .ok s.toInt := by
  have hle := s.raw.le_toInt
  have hlt := s.raw.toInt_lt
  refine part_toString ?_ ?_
  · rw [Int32.toInt_minValue]
    exact hle
  · rw [Int32.toInt_maxValue]
    exact Int.le_sub_one_of_lt hlt

theorem ofParts_written (s : SensorId) (period : UInt64) (delay : Option UInt64) :
    ofParts s.text (toString (period.toNat : Int))
        (delay.map fun delay => toString (delay.toNat : Int))
      = .ok ⟨s, period, delay.getD 0⟩ := by
  cases delay with
  | none =>
    simp only [ofParts, part_sensor, millis_toString, Option.map_none, bind, Except.bind, pure,
      Except.pure, SensorId.ofInt_toInt, Option.getD_none]
  | some delay =>
    simp only [ofParts, part_sensor, millis_toString, Option.map_some, bind, Except.bind, pure,
      Except.pure, SensorId.ofInt_toInt, Option.getD_some]

/-- **Whatever a subscription asks for can be written.** -/
theorem ofText_text (spec : SubscriptionSpec) : ofText spec.text = .ok spec := by
  rw [ofText, text, splitToList_joined (List.cons_ne_nil _ _)]
  exact ofParts_written spec.sensor spec.period (some spec.delay)

/-- A delay that is left out is zero. -/
theorem ofText_brief (spec : SubscriptionSpec) :
    ofText spec.brief = .ok { spec with delay := 0 } := by
  rw [ofText, brief, splitToList_joined (List.cons_ne_nil _ _)]
  exact ofParts_written spec.sensor spec.period none

end SubscriptionSpec
end SensorBroker
