/-!
Contract: sums whose order of additions is fixed.

A list of more than 128 numbers is cut in two near its middle, and the sums of
both parts are added. A shorter one is added up in eight interleaved sums, which
are then added in pairs; what is left over follows one by one. This keeps the
rounding error small, and makes the sum depend on the numbers alone.

Owns: that order, for any kind of number with an addition.

Does not own: means and other figures that are computed from sums.
-/

namespace LiveGrid.Number

/-- Adds numbers one by one. -/
def sumInTurn {α : Type} [Add α] (start : α) (values : List α) : α :=
  values.foldl (· + ·) start

/-- Adds blocks of eight numbers to eight sums, then adds up the sums in pairs, then the numbers
that are left over. -/
def sumEights {α : Type} [Add α] (s0 s1 s2 s3 s4 s5 s6 s7 : α) : List α → α
  | v0 :: v1 :: v2 :: v3 :: v4 :: v5 :: v6 :: v7 :: rest =>
      sumEights (s0 + v0) (s1 + v1) (s2 + v2) (s3 + v3) (s4 + v4) (s5 + v5) (s6 + v6) (s7 + v7) rest
  | rest => sumInTurn (((s0 + s1) + (s2 + s3)) + ((s4 + s5) + (s6 + s7))) rest

/-- The sum of a short list. Fewer than eight numbers are added to a start, which is zero. -/
def sumBlock {α : Type} [Add α] (zero : α) : List α → α
  | v0 :: v1 :: v2 :: v3 :: v4 :: v5 :: v6 :: v7 :: rest =>
      sumEights v0 v1 v2 v3 v4 v5 v6 v7 rest
  | rest => sumInTurn zero rest

/-- The number of elements before the cut of a long list: a multiple of eight near the half. -/
def cutPosition (count : Nat) : Nat := count / 2 - count / 2 % 8

/-- The pairwise sum of a list of known length. -/
def sumPairwiseOf {α : Type} [Add α] (zero : α) (count : Nat) (values : List α) : α :=
  if count ≤ 128 then sumBlock zero values
  else
    let cut := cutPosition count
    sumPairwiseOf zero cut (values.take cut) + sumPairwiseOf zero (count - cut) (values.drop cut)
termination_by count
decreasing_by
  · simp only [cutPosition]
    omega
  · simp only [cutPosition]
    omega

/-- The pairwise sum of a list. -/
def sumPairwise {α : Type} [Add α] (zero : α) (values : List α) : α :=
  sumPairwiseOf zero values.length values

end LiveGrid.Number
