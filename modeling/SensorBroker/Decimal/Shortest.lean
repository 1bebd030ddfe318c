/-
# Decimals with as few digits as tell a number from its neighbours

The decimals that stand for a binary number are those that are rounded to it:
they lie between the midpoints to its neighbours, the midpoints included if the
number is an even multiple. Of these decimals one with the fewest digits is
taken, of several of that length the nearest to the number. So reading the
decimal gives the number back, and no shorter decimal does.

Key definitions: `Tie`, `Reach`, `Reach.holds`, `Reach.pick?`, `shortest`,
`positional`, `shortestText`.
-/
import SensorBroker.Decimal.Binary

namespace SensorBroker.Decimal

/-- Which of two decimals is taken that are equally near. -/
inductive Tie
  | even
  | up
deriving DecidableEq

/-- The decimals that stand for a number: the fractions over `den` from `low` to
`high`, around `mid`, the number itself. -/
structure Reach where
  low : Nat
  mid : Nat
  high : Nat
  den : Nat
  /-- Whether the ends belong to it. -/
  closed : Bool
deriving DecidableEq

namespace Reach

/-- The decimals that stand for a number that is not zero. -/
def ofBinary (mantissa : Nat) (exponent : Int) : Reach :=
  let narrow := mantissa = Nat.pow 2 52 && Binary.leastExponent < exponent
  let scaled (quarters : Nat) : Nat := Binary.numerator quarters (exponent - 2)
  ⟨scaled (if narrow then 4 * mantissa - 1 else 4 * mantissa - 2), scaled (4 * mantissa),
    scaled (4 * mantissa + 2), Binary.denominator (exponent - 2), mantissa % 2 = 0⟩

/-- The decimals in units of ten to the power of `k`. -/
def rescale (r : Reach) (k : Int) : Reach :=
  let f := Nat.pow 10 (-k).toNat
  ⟨r.low * f, r.mid * f, r.high * f, r.den * Nat.pow 10 k.toNat, r.closed⟩

/-- Whether so many units stand for the number. -/
def holds (r : Reach) (units : Nat) : Bool :=
  if r.closed then r.low ≤ units * r.den && units * r.den ≤ r.high
  else r.low < units * r.den && units * r.den < r.high

/-- The units that stand for the number and are nearest to it. -/
def pick? (r : Reach) (tie : Tie) : Option Nat :=
  let below := r.mid / r.den
  let above := below + 1
  let rise := r.mid % r.den
  match r.holds below, r.holds above with
  | true, true =>
    if 2 * rise < r.den || (2 * rise = r.den && tie = .even && below % 2 = 0) then some below
    else some above
  | true, false => some below
  | false, true => some above
  | false, false => none

/-- Tries units of ten to the power of `k`, and then finer ones. -/
def search (r : Reach) (tie : Tie) : Nat → Int → Nat × Int
  | 0, _ => (r.mid / r.den, 0)
  | fuel + 1, k =>
    match (r.rescale k).pick? tie with
    | some units => (units, k)
    | none => search r tie fuel (k - 1)

end Reach

/-- The digits of the shortest decimal of a number that is not zero, and the
power of ten they count. The coarsest unit tried is larger than the number, the
finest divides every number. -/
def shortest (tie : Tie) (mantissa : Nat) (exponent : Int) : Nat × Int :=
  let r := Reach.ofBinary mantissa exponent
  let places := (toString (r.mid / r.den)).length
  r.search tie (places + 1080) places

/-- A decimal without an exponent. -/
def positional (digits : Nat) (power : Int) : String :=
  let zeros (n : Nat) : String := String.ofList (List.replicate n '0')
  let ds := (toString digits).toList
  if 0 ≤ power then String.ofList ds ++ zeros power.toNat
  else
    let places := (-power).toNat
    let ds := List.replicate (places + 1 - ds.length) '0' ++ ds
    String.ofList (ds.take (ds.length - places)) ++ "."
      ++ String.ofList (ds.drop (ds.length - places))

/-- A number in its shortest form without an exponent; a whole one has no
point. -/
def shortestText (x : Float) : String :=
  let sign (negative : Bool) : String := if negative then "-" else ""
  match Binary.ofBits x.toBits with
  | .nan => "NaN"
  | .infinite negative => sign negative ++ "inf"
  | .finite negative 0 _ => sign negative ++ "0"
  | .finite negative m e =>
    let (digits, power) := shortest .up m e
    sign negative ++ positional digits power

end SensorBroker.Decimal
