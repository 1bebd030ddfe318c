/-
# Decimals with a fixed number of places

A finite binary number is a fraction of whole numbers and is rounded once,
exactly, to the nearest decimal with so many places, a tie to the even
neighbour. The sign is written even where nothing else is left of the number.

Key definitions: `padded`, `ofUnits`, `fixed`.
-/
import SensorBroker.Decimal.Binary
import SensorBroker.Decimal.Rounding

namespace SensorBroker.Decimal

/-- The digits of a number below ten to the power of `width`, that many. -/
def padded (width n : Nat) : String :=
  let digits := toString n
  String.ofList (List.replicate (width - digits.length) '0') ++ digits

/-- A number of units of the last of so many places. -/
def ofUnits (places units : Nat) : String :=
  let unit := Nat.pow 10 places
  toString (units / unit) ++ "." ++ padded places (units % unit)

/-- A number with so many places, at least one. -/
def fixed (places : Nat) (x : Float) : String :=
  let sign (negative : Bool) : String := if negative then "-" else ""
  match Binary.ofBits x.toBits with
  | .nan => "NaN"
  | .infinite negative => sign negative ++ "inf"
  | .finite negative m e =>
    sign negative
      ++ ofUnits places (roundDiv (Binary.numerator m e * Nat.pow 10 places) (Binary.denominator e))

end SensorBroker.Decimal
