/-
# The digits of whole numbers

A whole number is written with its decimal digits, behind a minus sign where it
is negative. The digits stand for the number, and the first of them is no zero
unless it is alone. So the digits of a number can be taken from the front of a
text in which no digit follows them.

Key theorems: `toString_cases`, `isDigit_of_mem_toDigits`, `mem_toString`,
`toDigits_eq_cons`, `le_ofDigitChars`, `ofDigits_toDigits`, `head_toDigits_ne_zero`,
`digitsOf_append`.
-/
import SensorBroker.Text.Digits

namespace SensorBroker.Text

/-! ## How a number is written -/

theorem toList_toString_natCast (n : Nat) :
    (toString (n : Int)).toList = Nat.toDigits 10 n := by
  have hn : (0 : Int) ≤ n := Int.natCast_nonneg n
  simp [Int.toString_eq_repr, Int.repr_eq_if, hn, Nat.repr_eq_ofList_toDigits]

theorem toList_toString_neg {n : Nat} (h : 0 < n) :
    (toString (-(n : Int))).toList = '-' :: Nat.toDigits 10 n := by
  have hn : n ≠ 0 := by omega
  simp [Int.toString_eq_repr, Int.repr_eq_if, hn, Nat.repr_eq_ofList_toDigits]

/-- A number is written as its digits, or as those of its opposite behind a
minus sign. -/
theorem toString_cases (n : Int) :
    (∃ k : Nat, n = k ∧ (toString n).toList = Nat.toDigits 10 k) ∨
      ∃ k : Nat, 0 < k ∧ n = -k ∧ (toString n).toList = '-' :: Nat.toDigits 10 k := by
  by_cases hn : 0 ≤ n
  · obtain ⟨k, rfl⟩ := Int.eq_ofNat_of_zero_le hn
    exact .inl ⟨k, rfl, toList_toString_natCast k⟩
  · obtain ⟨k, rfl⟩ : ∃ k : Nat, n = -(k : Int) := ⟨n.natAbs, by omega⟩
    have hk : 0 < k := by omega
    exact .inr ⟨k, hk, rfl, toList_toString_neg hk⟩

/-! ## The digits -/

theorem isDigit_of_mem_toDigits {n : Nat} {c : Char} (h : c ∈ Nat.toDigits 10 n) :
    isDigit c = true := by
  have hc := Nat.isDigit_of_mem_toDigits (by decide) (by decide) h
  simpa [isDigit, Char.isDigit, Char.le_def] using hc

theorem ne_of_isDigit {c d : Char} (h : isDigit d = true) (hc : isDigit c = false) : d ≠ c := by
  rintro rfl
  simp [h] at hc

/-- A number is written in digits and a minus sign. -/
theorem mem_toString {n : Int} {c : Char} (h : c ∈ (toString n).toList) :
    c = '-' ∨ isDigit c = true := by
  rcases toString_cases n with ⟨k, -, hk⟩ | ⟨k, -, -, hk⟩
  · rw [hk] at h
    exact .inr (isDigit_of_mem_toDigits h)
  · rw [hk] at h
    exact (List.mem_cons.1 h).imp_right isDigit_of_mem_toDigits

/-- The written digits of a number begin with a digit. -/
theorem toDigits_eq_cons (n : Nat) :
    ∃ d ds, Nat.toDigits 10 n = d :: ds ∧ isDigit d = true := by
  obtain ⟨d, ds, hds⟩ := List.exists_cons_of_ne_nil (Nat.toDigits_ne_nil (n := n) (b := 10))
  exact ⟨d, ds, hds, isDigit_of_mem_toDigits (n := n) (by simp [hds])⟩

theorem digitValue_of_isDigit {c : Char} (h : isDigit c = true) :
    digitValue c = c.toNat - '0'.toNat := by
  simp [digitValue, h]

/-- Digits stand for the same number whichever way they are read. -/
theorem foldl_digitValue (ds : List Char) (h : ∀ d ∈ ds, isDigit d = true) (n : Nat) :
    ds.foldl (fun n c => n * 10 + digitValue c) n = Nat.ofDigitChars 10 ds n := by
  induction ds generalizing n with
  | nil => rfl
  | cons d ds ih =>
    have hd := digitValue_of_isDigit (h d (by simp))
    rw [List.foldl_cons, ih (fun e he => h e (by simp [he])), Nat.ofDigitChars_cons, hd,
      Nat.mul_comm]

/-- Digits behind others make a number no less. -/
theorem le_ofDigitChars (ds : List Char) (n : Nat) : n ≤ Nat.ofDigitChars 10 ds n := by
  rw [Nat.ofDigitChars_eq_ofDigitChars_zero]
  have h : 1 * n ≤ 10 ^ ds.length * n := Nat.mul_le_mul_right n (Nat.pow_pos (by decide))
  omega

theorem ofDigits_toDigits (n : Nat) : ofDigits 10 (Nat.toDigits 10 n) = n := by
  have hds : ∀ d ∈ Nat.toDigits 10 n, isDigit d = true := fun _ hd => isDigit_of_mem_toDigits hd
  simp only [ofDigits]
  rw [foldl_digitValue _ hds, Nat.ofDigitChars_ten_toDigits]

/-- No digits of a number but zero begin with a zero. -/
theorem head_toDigits_ne_zero {n : Nat} (h : 0 < n) : (Nat.toDigits 10 n).head? ≠ some '0' := by
  induction n using Nat.strongRecOn with
  | ind n ih =>
    by_cases hn : n < 10
    · have hall : ∀ k < 10, 0 < k → [k.digitChar].head? ≠ some '0' := by decide
      rw [Nat.toDigits_of_lt_base hn]
      exact hall n hn h
    · have hfront : (Nat.toDigits 10 (n / 10)).head? ≠ some '0' :=
        ih (n / 10) (by omega) (by omega)
      obtain ⟨d, ds, hds, -⟩ := toDigits_eq_cons (n / 10)
      rw [hds] at hfront
      rw [Nat.toDigits_of_base_le (by decide) (by omega), hds]
      exact hfront

/-- A zero in front of a number is all of it. -/
theorem toDigits_of_head_zero {n : Nat} (h : (Nat.toDigits 10 n).head? = some '0') :
    Nat.toDigits 10 n = ['0'] := by
  obtain rfl | hn := Nat.eq_zero_or_pos n
  · exact Nat.toDigits_zero 10
  · exact absurd h (head_toDigits_ne_zero hn)

/-! ## Taking digits from a text -/

/-- Digits are taken up to the first character that is none. -/
theorem digitsOf_append {ds : List Char} (h : ∀ d ∈ ds, isDigit d = true) {rest : List Char}
    (hrest : ∀ c ∈ rest.head?, isDigit c = false) : digitsOf (ds ++ rest) = (ds, rest) := by
  have hnone : rest.takeWhile isDigit = [] ∧ rest.dropWhile isDigit = rest := by
    cases rest with
    | nil => exact ⟨rfl, rfl⟩
    | cons c rest => simp [hrest c (by simp)]
  simp [digitsOf, List.takeWhile_append_of_pos h, List.dropWhile_append_of_pos h, hnone]

end SensorBroker.Text
