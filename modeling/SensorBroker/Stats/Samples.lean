/-
# Samples of a quantity

Samples come in one by one and are kept in blocks of sixty-four. Their total is
summed up in double precision, the block that was begun last first and each
block in the order of arrival: so many small samples still count beside one
that is so large that a single one of them is lost in rounding.

Key definitions: `Samples`, `Samples.add`, `Samples.count`, `Samples.total`.
-/

namespace SensorBroker

/-- Samples in blocks, the block that was begun last in front. -/
structure Samples where
  blocks : List (Array Float)
deriving Inhabited

namespace Samples

/-- The most samples of a block. -/
def blockSize : Nat := 64

/-- No samples. -/
def empty : Samples := ⟨[]⟩

/-- Adds a sample. -/
def add (x : Float) : Samples → Samples
  | ⟨[]⟩ => ⟨[#[x]]⟩
  | ⟨b :: bs⟩ => if b.size < blockSize then ⟨b.push x :: bs⟩ else ⟨#[x] :: b :: bs⟩

/-- The number of samples. -/
def count (s : Samples) : Nat :=
  s.blocks.foldr (fun b n => b.size + n) 0

/-- The sum of the samples. -/
def total (s : Samples) : Float :=
  s.blocks.foldl (fun sum b => b.foldl (fun sum x => sum + x) sum) 0.0

end Samples
end SensorBroker
