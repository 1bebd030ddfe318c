/-
# What is written can be read back

A codec reads a value back if decoding the bytes of the value, whatever
follows them, gives the value and what follows (`Codec.ReadsBack`). Numbers
read back if they fit their width; what codecs are put together from reads
back if the parts do.

Key definitions: `Codec.ReadsBack`.
Key theorems: `ofLittleEndian_littleEndian`, `littleEndian_ofLittleEndian`, `Codec.readsBack_word`,
`Codec.ReadsBack.via`, `Codec.ReadsBack.pair`, `Codec.readsBack_uint32`.
-/
import Mathlib.Algebra.Group.Nat.Defs
import SensorBroker.Wire.Codec

namespace SensorBroker

@[simp] theorem length_littleEndian : ∀ width n : Nat, (littleEndian width n).length = width
  | 0, _ => rfl
  | width + 1, n => by rw [littleEndian, List.length_cons, length_littleEndian width]

/-- The bytes of a number that fits are those of the number alone. -/
theorem ofLittleEndian_littleEndian : ∀ (width : Nat) {n : Nat}, n < 256 ^ width →
    ofLittleEndian (littleEndian width n) = n
  | 0, n, h => by
    rw [Nat.pow_zero] at h
    simp only [littleEndian, ofLittleEndian]
    omega
  | width + 1, n, h => by
    have hrest : n / 256 < 256 ^ width := by
      rw [Nat.pow_succ] at h
      exact Nat.div_lt_of_lt_mul (by omega)
    have hbyte : (UInt8.ofNat n).toNat = n % 256 := UInt8.toNat_ofNat'
    rw [littleEndian, ofLittleEndian, ofLittleEndian_littleEndian width hrest, hbyte]
    omega

theorem ofLittleEndian_lt : ∀ bs : Bytes, ofLittleEndian bs < 256 ^ bs.length
  | [] => Nat.one_pos
  | b :: rest => by
    have hrest := ofLittleEndian_lt rest
    have hbyte : b.toNat < 256 := b.toNat_lt
    calc b.toNat + 256 * ofLittleEndian rest
        < 256 + 256 * ofLittleEndian rest := by omega
      _ = 256 * (ofLittleEndian rest + 1) := by omega
      _ ≤ 256 * 256 ^ rest.length := Nat.mul_le_mul_left 256 hrest
      _ = 256 ^ (rest.length + 1) := by rw [Nat.pow_succ, Nat.mul_comm]

/-- The bytes of the number that some bytes stand for are these bytes. -/
theorem littleEndian_ofLittleEndian : ∀ bs : Bytes,
    littleEndian bs.length (ofLittleEndian bs) = bs
  | [] => rfl
  | b :: rest => by
    have hbyte : b.toNat < 256 := b.toNat_lt
    have hlow : UInt8.ofNat (b.toNat + 256 * ofLittleEndian rest) = b := by
      rw [← UInt8.toNat_inj, UInt8.toNat_ofNat']
      omega
    have hhigh : (b.toNat + 256 * ofLittleEndian rest) / 256 = ofLittleEndian rest := by omega
    rw [List.length_cons, ofLittleEndian, littleEndian, hlow, hhigh,
      littleEndian_ofLittleEndian rest]

theorem takeExactly_append (run rest : Bytes) :
    takeExactly run.length (run ++ rest) = some (run, rest) :=
  takeExactly_eq_some_iff.2 ⟨rfl, rfl⟩

namespace Codec

/-- Decoding the bytes of a value gives the value, and leaves what follows. -/
def ReadsBack {α : Type} (c : Codec α) (a : α) : Prop :=
  ∀ rest : Bytes, c.decode (c.encode a ++ rest) = .ok (a, rest)

theorem readsBack_word {width n : Nat} (h : n < 256 ^ width) : (word width).ReadsBack n := by
  intro rest
  have htake : takeExactly width (littleEndian width n ++ rest)
      = some (littleEndian width n, rest) :=
    takeExactly_eq_some_iff.2 ⟨rfl, length_littleEndian width n⟩
  simp only [word, htake, ofLittleEndian_littleEndian width h]

theorem ReadsBack.via {α β : Type} {c : Codec α} {forth : β → α} {back : α → β} {b : β}
    (h : c.ReadsBack (forth b)) (hback : back (forth b) = b) :
    (c.via forth back).ReadsBack b := by
  intro rest
  simp only [Codec.via, h rest, hback]

theorem ReadsBack.pair {α β : Type} {c : Codec α} {d : Codec β} {a : α} {b : β}
    (ha : c.ReadsBack a) (hb : d.ReadsBack b) : (c.pair d).ReadsBack (a, b) := by
  intro rest
  simp only [Codec.pair, List.append_assoc, ha (d.encode b ++ rest), hb rest]

theorem readsBack_uint32 (x : UInt32) : uint32.ReadsBack x :=
  (readsBack_word x.toNat_lt).via (UInt32.ofNat_toNat ..)

@[simp] theorem length_encode_uint32 (x : UInt32) : (uint32.encode x).length = 4 :=
  length_littleEndian ..

/-- Four bytes are a number, and fewer are none. -/
theorem decode_uint32_eq_error_iff {bs : Bytes} :
    (∃ e, uint32.decode bs = .error e) ↔ bs.length < 4 := by
  rw [← takeExactly_eq_none_iff]
  simp only [uint32, Codec.via, word]
  cases takeExactly 4 bs with
  | none => simp
  | some p => simp

theorem decode_uint32_rest {bs rest : Bytes} {x : UInt32} (h : uint32.decode bs = .ok (x, rest)) :
    bs.length = 4 + rest.length := by
  simp only [uint32, Codec.via, word] at h
  cases ht : takeExactly 4 bs with
  | none => simp [ht] at h
  | some p =>
    obtain ⟨run, rest'⟩ := p
    simp only [ht, Except.ok.injEq, Prod.mk.injEq] at h
    obtain ⟨rfl, hlen⟩ := takeExactly_eq_some_iff.1 ht
    rw [List.length_append, hlen, h.2]

end Codec
end SensorBroker
