/-
# Numbers in double precision

A finite number in double precision is a whole multiple, of at most 53 bits, of
a power of two. Its neighbours lie one multiple away; below the least multiple
of 53 bits the gap is half as wide.

Key definitions: `Binary`, `Binary.ofBits`, `Binary.numerator`,
`Binary.denominator`.
-/

namespace SensorBroker.Decimal

/-- What a number in double precision is. -/
inductive Binary
  | nan
  | infinite (negative : Bool)
  /-- The number `mantissa * 2 ^ exponent`, negated if `negative`. -/
  | finite (negative : Bool) (mantissa : Nat) (exponent : Int)
deriving DecidableEq

namespace Binary

/-- The exponent of the finest numbers. -/
def leastExponent : Int := -1074

/-- Reads sign, exponent and fraction. -/
def ofBits (bits : UInt64) : Binary :=
  let n := bits.toNat
  let negative := decide (Nat.pow 2 63 ≤ n)
  let exponent := n / Nat.pow 2 52 % Nat.pow 2 11
  let fraction := n % Nat.pow 2 52
  if exponent = Nat.pow 2 11 - 1 then
    if fraction = 0 then .infinite negative else .nan
  else if exponent = 0 then .finite negative fraction leastExponent
  else .finite negative (Nat.pow 2 52 + fraction) (leastExponent + (exponent - 1 : Nat))

/-- The numerator of `mantissa * 2 ^ exponent`. -/
def numerator (mantissa : Nat) (exponent : Int) : Nat :=
  mantissa * Nat.pow 2 exponent.toNat

/-- The denominator of `mantissa * 2 ^ exponent`. -/
def denominator (exponent : Int) : Nat :=
  Nat.pow 2 (-exponent).toNat

end Binary
end SensorBroker.Decimal
