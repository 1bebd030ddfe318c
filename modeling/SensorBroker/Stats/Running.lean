/-
# Statistics of a growing sample

Count, least, greatest, mean and spread are kept up to date one value at a
time, without keeping the values (Welford's recurrence for the spread). A value
that is not a number is counted and spoils mean and spread, but is never the
least or the greatest unless there is nothing else.

Key definitions: `RunningStats`, `RunningStats.push`, `RunningStats.variance`,
`StatsSummary`, `StatsSummary.text`.
Key theorems: `RunningStats.count_push`.
-/
import SensorBroker.Decimal.Fixed

namespace SensorBroker

/-- The statistics of the values so far. -/
structure RunningStats where
  count : Nat := 0
  mean : Float := 0
  /-- The sum of the squared distances from the mean. -/
  squares : Float := 0
  least : Float := 0
  greatest : Float := 0
deriving Inhabited

namespace RunningStats

/-- The lesser of two numbers; the first of equal ones, and the other one of a
number and something that is none. -/
def lesser (x y : Float) : Float :=
  if x.isNaN then y else if y < x then y else x

/-- The greater of two numbers; the first of equal ones, and the other one of a
number and something that is none. -/
def greater (x y : Float) : Float :=
  if x.isNaN then y else if x < y then y else x

/-- One more value. -/
def push (s : RunningStats) (x : Float) : RunningStats :=
  if s.count = 0 then ⟨1, x, 0, x, x⟩
  else
    let delta := x - s.mean
    let mean := s.mean + delta / (s.count + 1).toFloat
    ⟨s.count + 1, mean, s.squares + delta * (x - mean), lesser s.least x, greater s.greatest x⟩

/-- The variance of the sample; that of fewer than two values is zero. -/
def variance (s : RunningStats) : Float :=
  if s.count < 2 then 0 else s.squares / (s.count - 1).toFloat

/-- The standard deviation of the sample. -/
def deviation (s : RunningStats) : Float :=
  s.variance.sqrt

theorem count_push (s : RunningStats) (x : Float) : (s.push x).count = s.count + 1 := by
  unfold push
  split <;> simp_all

end RunningStats

/-- What is reported of a sample. -/
structure StatsSummary where
  count : Nat
  least : Float
  greatest : Float
  mean : Float
  deviation : Float
deriving Inhabited

/-- The report on a sample. -/
def RunningStats.summary (s : RunningStats) : StatsSummary :=
  ⟨s.count, s.least, s.greatest, s.mean, s.deviation⟩

/-- The report in one line. -/
def StatsSummary.text (s : StatsSummary) : String :=
  if s.count = 0 then "N/A"
  else
    "min=" ++ Decimal.fixed 1 s.least ++ ", max=" ++ Decimal.fixed 1 s.greatest
      ++ ", mean=" ++ Decimal.fixed 2 s.mean ++ ", std=" ++ Decimal.fixed 2 s.deviation
      ++ " (n=" ++ toString s.count ++ ")"

end SensorBroker
