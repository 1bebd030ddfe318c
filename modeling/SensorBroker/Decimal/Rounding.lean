/-
# Rounding a quotient

A quotient of whole numbers is rounded once, exactly: to the nearest whole
number, a tie to the even one.

Key definitions: `roundDiv`.
-/

namespace SensorBroker.Decimal

/-- The whole number nearest to `num / den`; of two, the even one. -/
def roundDiv (num den : Nat) : Nat :=
  let q := num / den
  let r := num % den
  if den < 2 * r ∨ 2 * r = den ∧ q % 2 = 1 then q + 1 else q

end SensorBroker.Decimal
